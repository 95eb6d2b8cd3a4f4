import CallAtlas.Query.Placeholder
import Mathlib.Data.List.Infix
import Mathlib.Data.List.TakeWhile

/-! What the search for placeholders makes of a text that is put together from pieces. Of two pieces
it matters only how the last character of the one and the first of the other go together. -/
namespace CallAtlas

variable {c : Char} {cs content piece rest : List Char}

namespace Text

theorem toNat_lt_of_isAlphanum (h : c.isAlphanum = true) : c.toNat < 128 := by
  rcases Bool.or_eq_true_iff.mp h with halpha | hdigit
  · rcases Bool.or_eq_true_iff.mp halpha with hupper | hlower
    · have hmost : c.toNat ≤ 'Z'.toNat := (of_decide_eq_true hupper).2
      exact Nat.lt_of_le_of_lt hmost (by decide)
    · have hmost : c.toNat ≤ 'z'.toNat := of_decide_eq_true (Bool.and_eq_true_iff.mp hlower).2
      exact Nat.lt_of_le_of_lt hmost (by decide)
  · have hmost : c.toNat ≤ '9'.toNat := of_decide_eq_true (Bool.and_eq_true_iff.mp hdigit).2
    exact Nat.lt_of_le_of_lt hmost (by decide)

def isPlainWord (c : Char) : Bool :=
  c.isAlphanum || c == '_'

theorem isWord_of_isPlainWord (h : isPlainWord c = true) : isWord c = true := by
  have hascii : c.toNat < 128 := by
    simp only [isPlainWord, Bool.or_eq_true, beq_iff_eq] at h
    rcases h with h | rfl
    · exact toNat_lt_of_isAlphanum h
    · decide
  rw [isWord, if_pos hascii]
  exact h

theorem isPlainWord_of_isNameStart (h : isNameStart c = true) : isPlainWord c = true := by
  simp only [isNameStart, Bool.or_eq_true] at h
  simp only [isPlainWord, Char.isAlphanum, Bool.or_eq_true]
  exact h.imp_left Or.inl

theorem isWord_of_isNameStart (h : isNameStart c = true) : isWord c = true :=
  isWord_of_isPlainWord (isPlainWord_of_isNameStart h)

end Text

namespace Query

open Text

/-- Where both pieces have characters, the two at the seam are so related. -/
def Meets (r : Char → Char → Prop) (piece rest : List Char) : Prop :=
  ∀ a ∈ piece.getLast?, ∀ b ∈ rest.head?, r a b

theorem Meets.tail {r : Char → Char → Prop} (h : Meets r (c :: piece) rest) :
    Meets r piece rest := by
  intro a ha
  refine h a ?_
  rw [List.getLast?_cons, Option.mem_def.mp ha]
  rfl

theorem isWord_of_isSigil (h : isSigil c = true) : isWord c = false := by
  simp only [isSigil, Bool.or_eq_true, beq_iff_eq] at h
  rcases h with (rfl | rfl) | rfl <;> decide +kernel

theorem isSigil_of_isWord (h : isWord c = true) : isSigil c = false := by
  by_contra hsigil
  rw [isWord_of_isSigil (by simpa using hsigil)] at h
  contradiction

theorem namesFrom_cons_of_not_sigil (before : Char) (h : isSigil c = false) :
    namesFrom before (c :: cs) = namesFrom c cs := by
  simp [namesFrom, h]

theorem namesFrom_of_no_sigil (before : Char) (h : ∀ c ∈ cs, isSigil c = false) :
    namesFrom before cs = [] := by
  induction cs generalizing before with
  | nil => rfl
  | cons c cs ih =>
    obtain ⟨hc, hcs⟩ := List.forall_mem_cons.mp h
    rw [namesFrom_cons_of_not_sigil before hc, ih c hcs]

theorem namesFrom_placeholder (before : Char) {sigil first : Char} {name : List Char}
    (hsigil : isSigil sigil = true) (hfirst : isNameStart first = true)
    (hname : ∀ c ∈ name, isWord c = true) :
    namesFrom before (sigil :: first :: name) =
      if isWord before || isSigil before then [] else [first :: name] := by
  have hwords : ∀ c ∈ first :: name, isWord c = true :=
    List.forall_mem_cons.mpr ⟨isWord_of_isNameStart hfirst, hname⟩
  have hrest : namesFrom sigil (first :: name) = [] :=
    namesFrom_of_no_sigil sigil fun c hc => isSigil_of_isWord (hwords c hc)
  rw [namesFrom]
  simp only [hrest, hsigil, hfirst, List.takeWhile_eq_self_iff.mpr hwords, List.head?_cons,
    Option.any_some, Bool.true_and, Bool.and_true]
  cases isWord before <;> cases isSigil before <;> simp

def IsApart (a b : Char) : Prop :=
  isWord b = true → isWord a = false ∧ isSigil a = false

theorem takeWhile_append_of_stop {p : Char → Bool} {xs ys : List Char}
    (h : (∀ a ∈ xs, p a = true) → ∀ b ∈ ys.head?, p b = false) :
    (xs ++ ys).takeWhile p = xs.takeWhile p := by
  rw [List.takeWhile_append]
  split
  next hall =>
    have hxs := List.takeWhile_eq_self_iff.mp ((List.takeWhile_prefix p).eq_of_length hall)
    have hys : ys.takeWhile p = [] := by
      cases ys with
      | nil => rfl
      | cons b ys => simp [h hxs b rfl]
    rw [hys, List.append_nil, List.takeWhile_eq_self_iff.mpr hxs]
  next => rfl

theorem any_head?_append_of_stop {p : Char → Bool} {xs ys : List Char}
    (h : xs = [] → ∀ b ∈ ys.head?, p b = false) :
    (xs ++ ys).head?.any p = xs.head?.any p := by
  cases xs with
  | cons => rfl
  | nil =>
    cases ys with
    | nil => rfl
    | cons b ys => simp [h rfl b rfl]

theorem namesFrom_append (h : Meets IsApart piece rest) (before : Char) :
    namesFrom before (piece ++ rest) =
      namesFrom before piece ++ namesFrom (piece.getLast?.getD before) rest := by
  induction piece generalizing before with
  | nil => rfl
  | cons c cs ih =>
    have hlast : ((c :: cs).getLast?).getD before = cs.getLast?.getD c := by
      rw [List.getLast?_cons, Option.getD_some]
    rw [hlast, List.cons_append]
    by_cases hsigil : isSigil c = true
    · -- Behind a sigil all the words of a piece belong to the name, and the next piece begins with
      -- none.
      have hstop (hwords : ∀ a ∈ cs, isWord a = true) (b : Char) (hb : b ∈ rest.head?) :
          isWord b = false := by
        by_contra hword
        have hapart := h _ List.getLast?_cons b hb (by simpa using hword)
        cases hcs : cs.getLast? with
        | none => simp [hcs, hsigil] at hapart
        | some a => simp [hcs, hwords a (List.mem_of_getLast? hcs)] at hapart
      have htake : (cs ++ rest).takeWhile isWord = cs.takeWhile isWord :=
        takeWhile_append_of_stop hstop
      have hhead : (cs ++ rest).head?.any isNameStart = cs.head?.any isNameStart := by
        refine any_head?_append_of_stop fun hcs b hb => ?_
        have hword := hstop (by simp [hcs]) b hb
        cases hstart : isNameStart b with
        | false => rfl
        | true =>
          rw [isWord_of_isNameStart hstart] at hword
          contradiction
      simp only [namesFrom, htake, hhead, ih h.tail]
      split <;> rfl
    · rw [namesFrom_cons_of_not_sigil _ (by simpa using hsigil),
        namesFrom_cons_of_not_sigil _ (by simpa using hsigil), ih h.tail]

def Opens (a b : Char) : Prop :=
  a = '-' ∧ b = '-' ∨ a = '/' ∧ b = '*'

structure IsCode (cs : List Char) : Prop where
  single : '\x27' ∉ cs
  double : '\x22' ∉ cs
  line : ¬['-', '-'] <:+: cs
  block : ¬['/', '*'] <:+: cs

instance (cs : List Char) : Decidable (IsCode cs) :=
  decidable_of_iff
    ('\x27' ∉ cs ∧ '\x22' ∉ cs ∧ ¬['-', '-'] <:+: cs ∧ ¬['/', '*'] <:+: cs)
    ⟨fun ⟨hsingle, hdouble, hline, hblock⟩ => ⟨hsingle, hdouble, hline, hblock⟩,
      fun h => ⟨h.single, h.double, h.line, h.block⟩⟩

theorem IsCode.of_infix (h : IsCode cs) (hpiece : piece <:+: cs) : IsCode piece where
  single hmem := h.single (hpiece.subset hmem)
  double hmem := h.double (hpiece.subset hmem)
  line hmem := h.line (hmem.trans hpiece)
  block hmem := h.block (hmem.trans hpiece)

theorem IsCode.not_opens (h : IsCode cs) {a b : Char} (hpair : [a, b] <:+: cs) : ¬Opens a b := by
  rintro (⟨rfl, rfl⟩ | ⟨rfl, rfl⟩)
  · exact h.line hpair
  · exact h.block hpair

theorem IsCode.meets (h : IsCode (piece ++ rest)) : Meets (¬Opens · ·) piece rest := by
  intro a ha b hb
  obtain ⟨before, rfl⟩ := List.getLast?_eq_some_iff.mp ha
  obtain ⟨after, rfl⟩ := List.head?_eq_some_iff.mp hb
  exact h.not_opens ⟨before, after, by simp⟩

theorem skip?_eq_none (hsingle : c ≠ '\x27') (hdouble : c ≠ '\x22')
    (hopens : ∀ d ∈ cs.head?, ¬Opens c d) : skip? (c :: cs) = none := by
  unfold skip?
  dsimp only
  rw [if_neg (by simp [hsingle, hdouble])]
  split
  · exact absurd (.inl ⟨rfl, rfl⟩) (hopens '-' rfl)
  · exact absurd (.inr ⟨rfl, rfl⟩) (hopens '*' rfl)
  · rfl

theorem blanked_of_skip {after : List Char} (h : skip? cs = some after) :
    blanked cs = ' ' :: blanked after := by
  cases cs with
  | nil => contradiction
  | cons c cs =>
    rw [blanked]
    split
    next hskip =>
      cases Option.some.inj (hskip.symm.trans h)
      rfl
    next hskip =>
      rw [hskip] at h
      contradiction

theorem blanked_of_no_skip (h : skip? (c :: cs) = none) :
    blanked (c :: cs) = c :: blanked cs := by
  rw [blanked]
  split
  next hskip =>
    rw [hskip] at h
    contradiction
  next => rfl

theorem blanked_append (h : IsCode piece) (hseam : Meets (¬Opens · ·) piece rest) :
    blanked (piece ++ rest) = piece ++ blanked rest := by
  induction piece with
  | nil => rfl
  | cons c cs ih =>
    have hnone : skip? (c :: (cs ++ rest)) = none := by
      refine skip?_eq_none (fun hc => h.single (by simp [hc])) (fun hc => h.double (by simp [hc]))
        fun d hd => ?_
      cases cs with
      | nil => exact hseam c rfl d hd
      | cons e cs =>
        obtain rfl := Option.some.inj hd
        exact h.not_opens (List.prefix_append [c, e] cs).isInfix
    have htail : IsCode cs := h.of_infix (List.suffix_cons c cs).isInfix
    rw [List.cons_append, blanked_of_no_skip hnone, ih htail hseam.tail, List.cons_append]

theorem blanked_of_isCode (h : IsCode cs) : blanked cs = cs := by
  have hempty : Meets (¬Opens · ·) cs [] := fun _ _ _ hb => nomatch hb
  have happend := blanked_append h hempty
  rwa [blanked, List.append_nil] at happend

inductive Quote
  | single
  | double
deriving DecidableEq

def Quote.mark : Quote → Char
  | single => '\x27'
  | double => '\x22'

def doubled (mark : Char) (content : List Char) : List Char :=
  content.flatMap fun c => if c = mark then [mark, mark] else [c]

def enclosed (mark : Char) (content : List Char) : List Char :=
  mark :: (doubled mark content ++ [mark])

section Quoted

variable {mark : Char} {after : List Char}

theorem closeQuoted_cons_of_ne (h : c ≠ mark) :
    closeQuoted mark (c :: cs) = closeQuoted mark cs := by
  cases cs with
  | nil => simp [closeQuoted, h]
  | cons d cs => simp [closeQuoted, h]

theorem closeQuoted_mark (h : ∀ d ∈ rest.head?, d ≠ mark) :
    closeQuoted mark (mark :: rest) = some rest := by
  cases rest with
  | nil => simp [closeQuoted]
  | cons d rest => simp [closeQuoted, h d rfl]

theorem closeQuoted_doubled_mark (h : closeQuoted mark cs = some after) :
    closeQuoted mark (mark :: mark :: cs) = some after := by
  simp [closeQuoted, h]

theorem closeQuoted_doubled (h : closeQuoted mark rest = some after) :
    closeQuoted mark (doubled mark content ++ rest) = some after := by
  induction content with
  | nil => exact h
  | cons c content ih =>
    by_cases hc : c = mark
    · simpa [doubled, hc] using closeQuoted_doubled_mark ih
    · simpa [doubled, hc, closeQuoted_cons_of_ne hc] using ih

theorem skip?_enclosed (quote : Quote)
    (h : closeQuoted quote.mark (quote.mark :: rest) = some after) :
    skip? (enclosed quote.mark content ++ rest) = some after := by
  have hopen : skip? (enclosed quote.mark content ++ rest) =
      closeQuoted quote.mark (doubled quote.mark content ++ quote.mark :: rest) := by
    cases quote <;> simp [enclosed, skip?, Quote.mark]
  rw [hopen]
  exact closeQuoted_doubled h

end Quoted

theorem skip?_line (hcontent : '\n' ∉ content) (hrest : ∀ d ∈ rest.head?, d = '\n') :
    skip? ('-' :: '-' :: (content ++ rest)) = some rest := by
  have hinside : ∀ c ∈ content, (c != '\n') = true := by
    intro c hc
    simpa using fun heq : c = '\n' => hcontent (heq ▸ hc)
  have hstop : rest.dropWhile (· != '\n') = rest := by
    cases rest with
    | nil => rfl
    | cons d rest => simp [hrest d rfl]
  change some ((content ++ rest).dropWhile (· != '\n')) = some rest
  rw [List.dropWhile_append_of_pos hinside, hstop]

theorem skip?_dash {after : List Char} (h : skip? ('-' :: cs) = some after) :
    skip? ('-' :: '-' :: cs) = some after := by
  cases cs with
  | nil => contradiction
  | cons d cs =>
    by_cases hd : d = '-'
    · subst hd
      exact h
    · simp [skip?, hd] at h

theorem skip?_block (hcontent : ¬['*', '/'] <:+: content) :
    skip? ('/' :: '*' :: (content ++ '*' :: '/' :: rest)) = some rest := by
  change closeBlock (content ++ '*' :: '/' :: rest) = some rest
  induction content with
  | nil => rfl
  | cons c content ih =>
    have ih := ih fun hpair => hcontent (List.infix_cons hpair)
    cases content with
    | nil =>
      simp [closeBlock]
    | cons d content =>
      have hopen : ¬(c = '*' ∧ d = '/') := by
        rintro ⟨rfl, rfl⟩
        exact hcontent (List.prefix_append ['*', '/'] content).isInfix
      rw [List.cons_append, List.cons_append, closeBlock, if_neg hopen]
      exact ih

end Query
end CallAtlas
