import CallAtlas.Sorting

/-! Sorting does not fail where any two of the elements can be compared, whatever the order of the
comparisons. -/
namespace CallAtlas

theorem Except.bind_eq_ok {α β : Type} {x : Except Failure α} {f : α → Except Failure β} {b : β}
    (h : x >>= f = .ok b) : ∃ a, x = .ok a ∧ f a = .ok b := by
  cases x with
  | error e => contradiction
  | ok a => exact ⟨a, rfl, h⟩

def Yields {α : Type} (x : Except Failure α) (p : α → Prop) : Prop :=
  ∃ a, x = .ok a ∧ p a

namespace Yields

variable {α β : Type} {p : α → Prop} {q : β → Prop}

theorem pure {a : α} (h : p a) : Yields (Pure.pure a) p :=
  ⟨a, rfl, h⟩

theorem bind {x : Except Failure α} {f : α → Except Failure β} (hx : Yields x p)
    (hf : ∀ a, p a → Yields (f a) q) : Yields (x >>= f) q := by
  obtain ⟨a, rfl, ha⟩ := hx
  exact hf a ha

end Yields

namespace Sorting

def Test.IsTotal (test : Test) : Prop :=
  ∀ i, Yields (test i) fun _ => True

section Boundary

variable {test : Test} (htest : test.IsTotal)
include htest

theorem halved_yields (fuel low high : Nat) :
    Yields (halved test fuel low high) fun _ => True := by
  induction fuel generalizing low high with
  | zero => exact .pure trivial
  | succ fuel ih =>
    unfold halved
    split
    · exact .pure trivial
    · refine .bind (htest _) fun passes _ => ?_
      split
      · exact ih _ _
      · exact ih _ _

theorem striding_yields (count fuel passed next : Nat) :
    Yields (striding test count fuel passed next) fun _ => True := by
  induction fuel generalizing passed next with
  | zero => exact .pure trivial
  | succ fuel ih =>
    unfold striding
    split
    · exact .pure trivial
    · refine .bind (htest _) fun passes _ => ?_
      split
      · exact ih _ _
      · exact .pure trivial

theorem boundary_yields (count : Nat) : Yields (boundary test count) fun _ => True :=
  halved_yields htest _ _ _

theorem boundaryFromStart_yields (count : Nat) :
    Yields (boundaryFromStart test count) fun _ => True := by
  unfold boundaryFromStart
  refine .bind (htest _) fun first _ => ?_
  split
  · exact .pure trivial
  · exact .bind (striding_yields htest _ _ _ _) fun _ _ => halved_yields htest _ _ _

theorem boundaryFromEnd_yields (count : Nat) :
    Yields (boundaryFromEnd test count) fun _ => True := by
  unfold boundaryFromEnd
  refine .bind (htest _) fun last _ => ?_
  split
  · exact .pure trivial
  · refine .bind (striding_yields ?_ _ _ _ _) fun _ _ => halved_yields htest _ _ _
    intro i
    exact .bind (htest _) fun _ _ => .pure trivial

end Boundary

section Elements

variable {α : Type} {before : Before α} {p : α → Prop}

theorem forall_append {xs ys : List α} (hxs : ∀ x ∈ xs, p x) (hys : ∀ x ∈ ys, p x) :
    ∀ x ∈ xs ++ ys, p x := by
  intro x hx
  rcases List.mem_append.mp hx with h | h
  · exact hxs x h
  · exact hys x h

theorem forall_take {xs : List α} (hxs : ∀ x ∈ xs, p x) (i : Nat) : ∀ x ∈ xs.take i, p x :=
  fun x hx => hxs x (List.mem_of_mem_take hx)

theorem forall_drop {xs : List α} (hxs : ∀ x ∈ xs, p x) (i : Nat) : ∀ x ∈ xs.drop i, p x :=
  fun x hx => hxs x (List.mem_of_mem_drop hx)

theorem forall_reverse {xs : List α} (hxs : ∀ x ∈ xs, p x) : ∀ x ∈ xs.reverse, p x :=
  fun x hx => hxs x (List.mem_reverse.mp hx)

structure Merge.Within (p : α → Prop) (m : Merge α) : Prop where
  first : ∀ x ∈ m.first, p x
  second : ∀ x ∈ m.second, p x
  done : ∀ x ∈ m.done, p x

namespace Merge.Within

variable {m : Merge α} (hm : m.Within p)
include hm

theorem patient (patience : Nat) : Merge.Within p { m with patience } :=
  ⟨hm.first, hm.second, hm.done⟩

theorem moveFirst {x : α} {xs : List α} (h : m.first = x :: xs) :
    Merge.Within p { m with first := xs, done := x :: m.done } := by
  obtain ⟨hx, hxs⟩ := List.forall_mem_cons.mp (h ▸ hm.first)
  exact ⟨hxs, hm.second, List.forall_mem_cons.mpr ⟨hx, hm.done⟩⟩

theorem moveSecond {y : α} {ys : List α} (h : m.second = y :: ys) :
    Merge.Within p { m with second := ys, done := y :: m.done } := by
  obtain ⟨hy, hys⟩ := List.forall_mem_cons.mp (h ▸ hm.second)
  exact ⟨hm.first, hys, List.forall_mem_cons.mpr ⟨hy, hm.done⟩⟩

theorem streakFirst (i : Nat) : Merge.Within p
    { m with first := m.first.drop i, done := (m.first.take i).reverse ++ m.done } :=
  ⟨forall_drop hm.first i, hm.second,
    forall_append (forall_reverse (forall_take hm.first i)) hm.done⟩

theorem streakSecond (j : Nat) : Merge.Within p
    { m with second := m.second.drop j, done := (m.second.take j).reverse ++ m.done } :=
  ⟨hm.first, forall_drop hm.second j,
    forall_append (forall_reverse (forall_take hm.second j)) hm.done⟩

end Merge.Within

def Compares (before : Before α) (p : α → Prop) : Prop :=
  ∀ x y, p x → p y → Yields (before x y) fun _ => True

variable (hbefore : Compares before p)
include hbefore

theorem areBefore_isTotal {xs : List α} {y : α} (hxs : ∀ x ∈ xs, p x) (hy : p y) :
    Test.IsTotal (areBefore before xs y) := by
  intro i
  unfold areBefore
  split
  · rename_i x hx
    exact hbefore x y (hxs x (List.mem_of_getElem? hx)) hy
  · exact .pure trivial

theorem areNotAfter_isTotal {xs : List α} {y : α} (hxs : ∀ x ∈ xs, p x) (hy : p y) :
    Test.IsTotal (areNotAfter before xs y) := by
  intro i
  unfold areNotAfter
  split
  · rename_i x hx
    exact .bind (hbefore y x hy (hxs x (List.mem_of_getElem? hx))) fun _ _ => .pure trivial
  · exact .pure trivial

theorem upward_yields (fuel : Nat) (mode : Mode) (m : Merge α) (hm : m.Within p) :
    Yields (Merge.upward before fuel mode m) (Merge.Within p) := by
  induction fuel generalizing mode m with
  | zero => exact .pure hm
  | succ fuel ih =>
    unfold Merge.upward
    split
    · rename_i x xs y ys hfirst hsecond
      have hx : p x := hm.first x (hfirst ▸ List.mem_cons_self)
      have hy : p y := hm.second y (hsecond ▸ List.mem_cons_self)
      split
      · refine .bind (hbefore y x hy hx) fun secondWins _ => ?_
        have hnext : Merge.Within p (if secondWins then { m with second := ys, done := y :: m.done }
            else { m with first := xs, done := x :: m.done }) := by
          split
          · exact hm.moveSecond hsecond
          · exact hm.moveFirst hfirst
        generalize (if secondWins then { m with second := ys, done := y :: m.done }
            else { m with first := xs, done := x :: m.done }) = next at hnext ⊢
        dsimp only
        split
        · exact .pure hnext
        · split
          all_goals
            split
            · exact ih _ _ hnext
            · exact ih _ _ (hnext.patient _)
      · -- A streak of the first run, one element of the second, a streak of that, one of the first.
        refine .bind (boundaryFromStart_yields (areNotAfter_isTotal hbefore hm.first hy) _)
          fun i _ => ?_
        dsimp only
        have hfirstOut := (hm.streakFirst i).patient (max 1 (m.patience - 1))
        split
        · exact .pure hfirstOut
        · have hsecondOut := hfirstOut.moveSecond hsecond
          split
          · rename_i x xs _ _ hrest
            have hx : p x := hsecondOut.first x (hrest ▸ List.mem_cons_self)
            refine .bind
              (boundaryFromStart_yields (areBefore_isTotal hbefore hsecondOut.second hx) _)
              fun j _ => ?_
            have hstreak := hsecondOut.streakSecond j
            split
            · exact .pure hstreak
            · have hnext := hstreak.moveFirst hrest
              split
              · exact .pure hnext
              · split
                · exact ih _ _ hnext
                · exact ih _ _ (hnext.patient _)
          · exact .pure hsecondOut
    · exact .pure hm

theorem downward_yields (fuel : Nat) (mode : Mode) (m : Merge α) (hm : m.Within p) :
    Yields (Merge.downward before fuel mode m) (Merge.Within p) := by
  induction fuel generalizing mode m with
  | zero => exact .pure hm
  | succ fuel ih =>
    unfold Merge.downward
    split
    · rename_i x xs y ys hfirst hsecond
      have hx : p x := hm.first x (hfirst ▸ List.mem_cons_self)
      have hy : p y := hm.second y (hsecond ▸ List.mem_cons_self)
      split
      · refine .bind (hbefore y x hy hx) fun firstWins _ => ?_
        have hnext : Merge.Within p (if firstWins then { m with first := xs, done := x :: m.done }
            else { m with second := ys, done := y :: m.done }) := by
          split
          · exact hm.moveFirst hfirst
          · exact hm.moveSecond hsecond
        generalize (if firstWins then { m with first := xs, done := x :: m.done }
            else { m with second := ys, done := y :: m.done }) = next at hnext ⊢
        dsimp only
        split
        · exact .pure hnext
        · split
          all_goals
            split
            · exact ih _ _ hnext
            · exact ih _ _ (hnext.patient _)
      · refine .bind (boundaryFromEnd_yields
          (areNotAfter_isTotal hbefore (forall_reverse hm.first) hy) _) fun kept _ => ?_
        dsimp only
        generalize m.first.length - kept = i
        have hfirstOut := (hm.streakFirst i).patient (max 1 (m.patience - 1))
        split
        · exact .pure hfirstOut
        · have hsecondOut := hfirstOut.moveSecond hsecond
          split
          · rename_i x xs _ _ _ hrest
            have hx : p x := hsecondOut.first x (hrest ▸ List.mem_cons_self)
            refine .bind (boundaryFromEnd_yields
              (areBefore_isTotal hbefore (forall_reverse hsecondOut.second) hx) _) fun kept _ => ?_
            generalize List.length _ - kept = j
            have hstreak := hsecondOut.streakSecond j
            split
            · exact .pure hstreak
            · have hnext := hstreak.moveFirst hrest
              split
              · exact .pure hnext
              · split
                · exact ih _ _ hnext
                · exact ih _ _ (hnext.patient _)
          · exact .pure hsecondOut
    · exact .pure hm

theorem mergeRun_yields (patience : Nat) {first second : List α} (hfirst : ∀ x ∈ first, p x)
    (hsecond : ∀ x ∈ second, p x) :
    Yields (Merge.run before patience first second) fun r => ∀ x ∈ r.1, p x := by
  unfold Merge.run
  dsimp only
  split
  · have hstart : Merge.Within p
        ⟨first, second.drop 1, (second.take 1).reverse, patience⟩ :=
      ⟨hfirst, forall_drop hsecond 1, forall_reverse (forall_take hsecond 1)⟩
    have hend (m : Merge α) (hm : m.Within p) :
        ∀ x ∈ m.done.reverse ++ (m.second ++ m.first), p x :=
      forall_append (forall_reverse hm.done) (forall_append hm.second hm.first)
    split
    · exact .bind (.pure hstart) fun m hm => .pure (hend m hm)
    · exact .bind (upward_yields hbefore _ _ _ hstart) fun m hm => .pure (hend m hm)
  · have hreversed := forall_reverse hfirst
    have hstart : Merge.Within p
        ⟨first.reverse.drop 1, second.reverse, first.reverse.take 1, patience⟩ :=
      ⟨forall_drop hreversed 1, forall_reverse hsecond, forall_take hreversed 1⟩
    have hend (m : Merge α) (hm : m.Within p) :
        ∀ x ∈ (m.second.reverse ++ m.first.reverse) ++ m.done, p x :=
      forall_append (forall_append (forall_reverse hm.second) (forall_reverse hm.first)) hm.done
    split
    · exact .bind (.pure hstart) fun m hm => .pure (hend m hm)
    · exact .bind (downward_yields hbefore _ _ _ hstart) fun m hm => .pure (hend m hm)

theorem merged_yields (patience : Nat) {first second : List α} (hfirst : ∀ x ∈ first, p x)
    (hsecond : ∀ x ∈ second, p x) :
    Yields (merged before patience first second) fun r => ∀ x ∈ r.1, p x := by
  unfold merged
  split
  · exact .pure hfirst
  · rename_i y ys
    have hy := hsecond y List.mem_cons_self
    refine .bind (boundaryFromStart_yields (areNotAfter_isTotal hbefore hfirst hy) _)
      fun i _ => ?_
    split
    · exact .pure (forall_append hfirst hsecond)
    · rename_i x hlast
      have hx := forall_drop hfirst i x (List.mem_of_getLast? hlast)
      refine .bind (boundaryFromEnd_yields (areBefore_isTotal hbefore hsecond hx) _)
        fun j _ => ?_
      split
      · exact .pure (forall_append hfirst hsecond)
      · refine .bind (mergeRun_yields hbefore _ (forall_drop hfirst i) (forall_take hsecond j))
          fun r hr => ?_
        exact .pure (forall_append (forall_append (forall_take hfirst i) hr)
          (forall_drop hsecond j))

theorem climb_yields {x : α} {done xs : List α} (hx : p x) (hdone : ∀ x ∈ done, p x)
    (hxs : ∀ x ∈ xs, p x) :
    Yields (climb before x done xs) fun r => (∀ x ∈ r.1, p x) ∧ ∀ x ∈ r.2, p x := by
  induction xs generalizing x done with
  | nil =>
    exact .pure ⟨forall_reverse (List.forall_mem_cons.mpr ⟨hx, hdone⟩), hxs⟩
  | cons y ys ih =>
    obtain ⟨hy, hys⟩ := List.forall_mem_cons.mp hxs
    have hdone := List.forall_mem_cons.mpr ⟨hx, hdone⟩
    unfold climb
    refine .bind (hbefore y x hy hx) fun _ _ => ?_
    split
    · exact .pure ⟨forall_reverse hdone, hxs⟩
    · exact ih hy hdone hys

theorem descend_yields {x : α} {done xs : List α} (hx : p x) (hdone : ∀ x ∈ done, p x)
    (hxs : ∀ x ∈ xs, p x) :
    Yields (descend before x done xs) fun r => (∀ x ∈ r.1, p x) ∧ ∀ x ∈ r.2, p x := by
  induction xs generalizing x done with
  | nil => exact .pure ⟨List.forall_mem_cons.mpr ⟨hx, hdone⟩, hxs⟩
  | cons y ys ih =>
    obtain ⟨hy, hys⟩ := List.forall_mem_cons.mp hxs
    have hdone := List.forall_mem_cons.mpr ⟨hx, hdone⟩
    unfold descend
    refine .bind (hbefore y x hy hx) fun _ _ => ?_
    split
    · exact ih hy hdone hys
    · exact .pure ⟨hdone, hxs⟩

theorem run_yields {xs : List α} (hxs : ∀ x ∈ xs, p x) :
    Yields (run before xs) fun r => (∀ x ∈ r.1, p x) ∧ ∀ x ∈ r.2, p x := by
  have hnil : ∀ x ∈ ([] : List α), p x := fun _ h => absurd h List.not_mem_nil
  unfold run
  split
  · rename_i x y ys
    obtain ⟨hx, hxs⟩ := List.forall_mem_cons.mp hxs
    obtain ⟨hy, hys⟩ := List.forall_mem_cons.mp hxs
    refine .bind (hbefore y x hy hx) fun _ _ => ?_
    split
    · exact descend_yields hbefore hy (List.forall_mem_cons.mpr ⟨hx, hnil⟩) hys
    · exact climb_yields hbefore hy (List.forall_mem_cons.mpr ⟨hx, hnil⟩) hys
  · exact .pure ⟨hxs, hnil⟩

theorem insert_yields {xs : List α} {x : α} (hxs : ∀ x ∈ xs, p x) (hx : p x) :
    Yields (insert before xs x) fun r => ∀ x ∈ r, p x := by
  unfold insert
  refine .bind (boundary_yields (areNotAfter_isTotal hbefore hxs hx) _) fun i _ => ?_
  exact .pure (forall_append (forall_take hxs i)
    (List.forall_mem_cons.mpr ⟨hx, forall_drop hxs i⟩))

theorem foldlM_insert_yields {more xs : List α} (hmore : ∀ x ∈ more, p x)
    (hxs : ∀ x ∈ xs, p x) :
    Yields (more.foldlM (insert before) xs) fun r => ∀ x ∈ r, p x := by
  induction more generalizing xs with
  | nil => exact .pure hxs
  | cons x more ih =>
    obtain ⟨hx, hmore⟩ := List.forall_mem_cons.mp hmore
    rw [List.foldlM_cons]
    exact .bind (insert_yields hbefore hxs hx) fun _ h => ih hmore h

def Stack.Within (p : α → Prop) (s : Stack α) : Prop :=
  ∀ w ∈ s.waiting, ∀ x ∈ w.run, p x

omit hbefore in
theorem Stack.Within.uncons {s : Stack α} (hs : s.Within p) {w : Waiting α} {ws : List (Waiting α)}
    (h : s.waiting = w :: ws) : (∀ x ∈ w.run, p x) ∧ ∀ w ∈ ws, ∀ x ∈ w.run, p x := by
  rw [Stack.Within, h] at hs
  exact List.forall_mem_cons.mp hs

theorem settle_yields (depth fuel : Nat) {s : Stack α} (hs : s.Within p) :
    Yields (Stack.settle before depth fuel s) (Stack.Within p) := by
  induction fuel generalizing s with
  | zero => exact .pure hs
  | succ fuel ih =>
    unfold Stack.settle
    split
    · rename_i last previous others hwaiting
      obtain ⟨hlast, hrest⟩ := hs.uncons hwaiting
      obtain ⟨hprevious, hothers⟩ := List.forall_mem_cons.mp hrest
      split
      · exact .pure hs
      · refine .bind (merged_yields hbefore _ hprevious hlast) fun r hr => ?_
        exact ih (List.forall_mem_cons.mpr ⟨hr, hothers⟩)
    · exact .pure hs

theorem push_yields (total : Nat) {s : Stack α} {xs : List α} (hs : s.Within p)
    (hxs : ∀ x ∈ xs, p x) : Yields (s.push before total xs) (Stack.Within p) := by
  have hnil : ∀ w ∈ ([] : List (Waiting α)), ∀ x ∈ w.run, p x :=
    fun _ h => absurd h List.not_mem_nil
  unfold Stack.push
  split
  · exact .pure (List.forall_mem_cons.mpr ⟨hxs, hnil⟩)
  · refine .bind (settle_yields hbefore _ _ hs) fun s hs => ?_
    split
    · exact .pure (List.forall_mem_cons.mpr ⟨hxs, hnil⟩)
    · rename_i last others hwaiting
      obtain ⟨hlast, hothers⟩ := hs.uncons hwaiting
      exact .pure (List.forall_mem_cons.mpr
        ⟨hxs, List.forall_mem_cons.mpr ⟨hlast, hothers⟩⟩)

theorem collapse_yields (fuel : Nat) {s : Stack α} (hs : s.Within p) :
    Yields (s.collapse before fuel) fun r => ∀ x ∈ r, p x := by
  have hnil : ∀ x ∈ ([] : List α), p x := fun _ h => absurd h List.not_mem_nil
  induction fuel generalizing s with
  | zero => exact .pure hnil
  | succ fuel ih =>
    unfold Stack.collapse
    split
    · exact .pure hnil
    · rename_i only hwaiting
      exact .pure (hs only (hwaiting ▸ List.mem_cons_self))
    · rename_i last previous hwaiting
      obtain ⟨hlast, hrest⟩ := hs.uncons hwaiting
      refine .bind (merged_yields hbefore _ (hrest _ List.mem_cons_self) hlast) fun r hr => ?_
      exact .pure hr
    · rename_i last middle earlier others hwaiting
      obtain ⟨hlast, hrest⟩ := hs.uncons hwaiting
      obtain ⟨hmiddle, hrest⟩ := List.forall_mem_cons.mp hrest
      obtain ⟨hearlier, hothers⟩ := List.forall_mem_cons.mp hrest
      split
      · refine .bind (merged_yields hbefore _ hearlier hmiddle) fun r hr => ?_
        exact ih (List.forall_mem_cons.mpr ⟨hlast, List.forall_mem_cons.mpr ⟨hr, hothers⟩⟩)
      · refine .bind (merged_yields hbefore _ hmiddle hlast) fun r hr => ?_
        exact ih (List.forall_mem_cons.mpr ⟨hr, List.forall_mem_cons.mpr ⟨hearlier, hothers⟩⟩)

theorem pile_yields (total fuel : Nat) {s : Stack α} {xs : List α} (hs : s.Within p)
    (hxs : ∀ x ∈ xs, p x) : Yields (pile before total fuel s xs) (Stack.Within p) := by
  induction fuel generalizing s xs with
  | zero =>
    unfold pile
    exact .pure hs
  | succ fuel ih =>
    cases xs with
    | nil =>
      unfold pile
      exact .pure hs
    | cons x xs =>
      unfold pile
      refine .bind (run_yields hbefore hxs) fun r ⟨hfirst, hrest⟩ => ?_
      refine .bind (foldlM_insert_yields hbefore (forall_take hrest _) hfirst) fun first h => ?_
      exact .bind (push_yields hbefore total hs h) fun s hs => ih hs (forall_drop hrest _)

theorem check_eq_ok {xs : List α} (hxs : ∀ x ∈ xs, p x) : check before xs = .ok () := by
  have hstart : Stack.Within p ({} : Stack α) := fun _ h => absurd h List.not_mem_nil
  have hsort : Yields (sort before xs) fun r => ∀ x ∈ r, p x := by
    unfold sort
    exact .bind (pile_yields hbefore _ _ hstart hxs) fun s hs => collapse_yields hbefore _ hs
  obtain ⟨r, hr, _⟩ := hsort
  rw [check, hr]
  rfl

end Elements

end Sorting
end CallAtlas
