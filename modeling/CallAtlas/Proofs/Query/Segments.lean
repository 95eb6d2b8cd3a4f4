import CallAtlas.Proofs.Occurrences
import CallAtlas.Proofs.Query.Scanning
import CallAtlas.Query.Compiled
import Mathlib.Data.List.Chain

/-! Statements written as code, literals and comments in turn. Their parameters are named in the
code alone, whatever the literals and comments hold. -/
namespace CallAtlas.Query

/-- Code and line comments may hold no more than what leaves them in one piece. -/
inductive Segment
  | code (cs : List Char) (isCode : IsCode cs)
  | quoted (quote : Quote) (content : List Char)
  | line (content : List Char) (isLine : '\n' ∉ content)
  | block (content : List Char) (isOpen : ¬['*', '/'] <:+: content)

namespace Segment

variable {s : Segment} {rest segments : List Segment} {cs after : List Char}

def text : Segment → List Char
  | code cs _ => cs
  | quoted quote content => enclosed quote.mark content
  | line content _ => '-' :: '-' :: content
  | block content _ => '/' :: '*' :: (content ++ ['*', '/'])

def code? : Segment → Option (List Char)
  | code cs _ => some cs
  | _ => none

/-- Code is not cut in two, and behind a line comment code begins with the end of the line. -/
def MayPrecede : Segment → Segment → Prop
  | code .., code .. => False
  | line .., next => next.text.head? = some '\n'
  | _, _ => True

def textOf (segments : List Segment) : List Char :=
  segments.flatMap text

@[simp] theorem textOf_nil : textOf [] = [] := rfl

@[simp] theorem textOf_cons (s : Segment) (rest : List Segment) :
    textOf (s :: rest) = s.text ++ textOf rest := rfl

def codesOf (segments : List Segment) : List (List Char) :=
  segments.filterMap code?

/-- Quoted texts with the same quotes and nothing between them are scanned as one. -/
def isFused (quote : Quote) : Segment → Bool
  | code cs _ => cs.isEmpty
  | quoted quote' _ => quote' = quote
  | _ => false

theorem exists_text_of_not_fused {quote : Quote} (h : s.isFused quote = false) :
    ∃ d tail, s.text = d :: tail ∧ d ≠ quote.mark := by
  cases s with
  | code cs hcs =>
    cases cs with
    | nil => contradiction
    | cons c cs =>
      refine ⟨c, cs, rfl, ?_⟩
      rintro rfl
      cases quote with
      | single => exact hcs.single List.mem_cons_self
      | double => exact hcs.double List.mem_cons_self
  | quoted quote' content =>
    refine ⟨_, _, rfl, fun hmark => ?_⟩
    have hsame : quote' = quote := by
      cases quote <;> cases quote' <;> first | rfl | contradiction
    simp [isFused, hsame] at h
  | line content _ => exact ⟨_, _, rfl, by cases quote <;> decide⟩
  | block content _ => exact ⟨_, _, rfl, by cases quote <;> decide⟩

theorem closeQuoted_textOf (quote : Quote) (segments : List Segment) :
    closeQuoted quote.mark (quote.mark :: textOf segments) =
      some (textOf (segments.dropWhile (isFused quote))) := by
  induction segments with
  | nil => exact closeQuoted_mark (by simp)
  | cons s rest ih =>
    cases hfused : s.isFused quote with
    | true =>
      rw [List.dropWhile_cons_of_pos hfused]
      cases s with
      | code cs hcs =>
        rw [textOf_cons, text, List.isEmpty_iff.mp hfused]
        exact ih
      | quoted quote' content =>
        obtain rfl : quote' = quote := of_decide_eq_true hfused
        rw [textOf_cons, text, enclosed, List.cons_append, List.append_assoc]
        exact closeQuoted_doubled_mark (closeQuoted_doubled ih)
      | line | block => contradiction
    | false =>
      obtain ⟨d, tail, htext, hd⟩ := exists_text_of_not_fused hfused
      rw [List.dropWhile_cons_of_neg (by simp [hfused]), textOf_cons, htext]
      exact closeQuoted_mark (by simpa using hd)

def remaining : Segment → List Segment → List Segment
  | quoted quote _, rest => rest.dropWhile (isFused quote)
  | _, rest => rest

theorem skip?_textOf (hs : s.code? = none) (h : (s :: rest).IsChain MayPrecede) :
    skip? (textOf (s :: rest)) = some (textOf (s.remaining rest)) := by
  cases s with
  | code => contradiction
  | quoted quote content =>
    exact skip?_enclosed quote (closeQuoted_textOf quote rest)
  | line content hcontent =>
    rw [textOf_cons, text]
    refine skip?_line hcontent fun d hd => ?_
    cases rest with
    | nil => contradiction
    | cons next rest =>
      have hnext : next.text.head? = some '\n' := (List.isChain_cons_cons.mp h).1
      obtain ⟨tail, htext⟩ := List.head?_eq_some_iff.mp hnext
      rw [textOf_cons, htext] at hd
      exact (Option.some.inj hd).symm
  | block content hcontent =>
    rw [textOf_cons, text, List.cons_append, List.cons_append, List.append_assoc]
    exact skip?_block hcontent

theorem names_append_cons {c : Char} (hword : Text.isWord c = false) (hsigil : isSigil c = false)
    (cs rest : List Char) : names (cs ++ c :: rest) = names cs ++ namesFrom c rest := by
  have hapart : Meets IsApart cs (c :: rest) := by
    intro a _ b hb hb'
    obtain rfl := Option.some.inj hb
    rw [hword] at hb'
    contradiction
  rw [names, namesFrom_append hapart, namesFrom_cons_of_not_sigil _ hsigil]
  rfl

theorem names_append_blank (cs rest : List Char) :
    names (cs ++ ' ' :: rest) = names cs ++ names rest :=
  names_append_cons (by decide +kernel) rfl cs rest

/-- The seam between code and what is blanked out behind it neither makes a name nor hides one. A
dash that the code ends with may be blanked out with the dashes of a comment. -/
theorem names_blanked_code (hcs : IsCode cs) {t : List Char} (ht : skip? t = some after) :
    names (blanked (cs ++ t)) = names cs ++ names (blanked t) := by
  have hblank : names (blanked t) = names (blanked after) := by
    rw [blanked_of_skip ht]
    exact names_append_blank [] _
  by_cases hdash : cs.getLast? = some '-' ∧ t.head? = some '-'
  · obtain ⟨before, rfl⟩ := List.getLast?_eq_some_iff.mp hdash.1
    obtain ⟨u, rfl⟩ := List.head?_eq_some_iff.mp hdash.2
    have hcode : IsCode before := hcs.of_infix (List.prefix_append before ['-']).isInfix
    have hseam : Meets (¬Opens · ·) before ('-' :: '-' :: u) := fun a ha b hb =>
      hcs.meets a ha b hb
    have hname : names (before ++ ['-']) = names before :=
      (names_append_cons (by decide +kernel) rfl before []).trans (List.append_nil _)
    rw [List.append_assoc, List.singleton_append, blanked_append hcode hseam,
      blanked_of_skip (skip?_dash ht), names_append_blank, hname, hblank]
  · have hseam : Meets (¬Opens · ·) cs t := by
      rintro a ha b hb (⟨rfl, rfl⟩ | ⟨rfl, rfl⟩)
      · exact hdash ⟨ha, hb⟩
      · obtain ⟨u, rfl⟩ := List.head?_eq_some_iff.mp hb
        simp [skip?] at ht
    rw [blanked_append hcs hseam, blanked_of_skip ht, names_append_blank, ← hblank,
      blanked_of_skip ht]

theorem codesOf_cons (s : Segment) (rest : List Segment) :
    codesOf (s :: rest) = s.code?.toList ++ codesOf rest := by
  cases s <;> rfl

theorem names_of_isFused {quote : Quote} (h : s.isFused quote = true) :
    (codesOf (s :: rest)).flatMap names = (codesOf rest).flatMap names := by
  cases s with
  | code cs hcs =>
    rw [codesOf_cons, code?, List.isEmpty_iff.mp h]
    rfl
  | quoted => rfl
  | line | block => contradiction

/-- The names in a text are those in its code. So they are if the segments that are fused with a
quoted text in front are left out: scanning goes on behind these. -/
theorem names_blanked_textOf (h : segments.IsChain MayPrecede) :
    names (blanked (textOf segments)) = (codesOf segments).flatMap names ∧
      ∀ quote, names (blanked (textOf (segments.dropWhile (isFused quote)))) =
        (codesOf segments).flatMap names := by
  -- What follows quotes is scanned as one with them, so the two are proved by one induction.
  induction segments with
  | nil =>
    have hnil : names (blanked (textOf [])) = [] := by
      rw [textOf_nil, blanked]
      rfl
    exact ⟨hnil, fun _ => hnil⟩
  | cons s rest ih =>
    obtain ⟨hnext, hrest⟩ := List.isChain_cons.mp h
    obtain ⟨ih, ihFused⟩ := ih hrest
    have hall : names (blanked (textOf (s :: rest))) = (codesOf (s :: rest)).flatMap names := by
      cases hcode : s.code? with
      | some cs =>
        cases s with
        | code cs hcs =>
          rw [codesOf_cons, code?, Option.toList_some, List.singleton_append, List.flatMap_cons]
          cases rest with
          | nil =>
            rw [textOf_cons, textOf_nil, text, List.append_nil, blanked_of_isCode hcs]
            exact (List.append_nil _).symm
          | cons next rest =>
            have hother : next.code? = none := by
              cases next with
              | code => exact (hnext _ rfl).elim
              | quoted | line | block => rfl
            rw [textOf_cons, text, names_blanked_code hcs (skip?_textOf hother hrest), ih]
        | quoted | line | block => contradiction
      | none =>
        rw [blanked_of_skip (skip?_textOf hcode h), codesOf_cons, hcode]
        refine (names_append_blank [] _).trans ?_
        cases s with
        | code => contradiction
        | quoted quote => exact ihFused quote
        | line | block => exact ih
    refine ⟨hall, fun quote => ?_⟩
    cases hfused : s.isFused quote with
    | true => rw [List.dropWhile_cons_of_pos hfused, ihFused, names_of_isFused hfused]
    | false => rw [List.dropWhile_cons_of_neg (by simp [hfused]), hall]

/-- The parameters of a statement are the names in its code, each once and in the order in which
they first occur; statements that differ in nothing but literals and comments have the same. -/
theorem parameters_of_segments (name : Json) (segments : List Segment)
    (h : segments.IsChain MayPrecede) :
    FirstOccurrences (((codesOf segments).flatMap names).map String.ofList)
        (compile name (String.ofList (textOf segments))).parameters ∧
      ∀ others : List Segment, others.IsChain MayPrecede → codesOf others = codesOf segments →
        (compile name (String.ofList (textOf others))).parameters =
          (compile name (String.ofList (textOf segments))).parameters := by
  have hparameters {segments : List Segment} (h : segments.IsChain MayPrecede) :
      FirstOccurrences (((codesOf segments).flatMap names).map String.ofList)
        (compile name (String.ofList (textOf segments))).parameters := by
    rw [compile, placeholders, String.toList_ofList, (names_blanked_textOf h).1]
    exact .eraseDups _
  refine ⟨hparameters h, fun others hothers hcodes => ?_⟩
  have hsame := hparameters hothers
  rw [hcodes] at hsame
  exact hsame.unique (hparameters h)

def tangled : List Segment :=
  [code "SELECT ".toList (by decide +kernel), quoted .single "it\x27s :a".toList,
    quoted .single ":b".toList, code " -".toList (by decide +kernel),
    line " :c".toList (by decide +kernel), code "\n:x,".toList (by decide +kernel),
    block "/:d".toList (by decide +kernel), quoted .double ":e".toList,
    code "=@y".toList (by decide +kernel)]

theorem parameters_of_segments_of_tangled :
    String.ofList (textOf tangled) =
        "SELECT \x27it\x27\x27s :a\x27\x27:b\x27 --- :c\n:x,/*/:d*/\x22:e\x22=@y" ∧
      (compile (.text "q") (String.ofList (textOf tangled))).parameters = ["x", "y"] := by
  have hchain : tangled.IsChain MayPrecede := by
    simp [tangled, List.isChain_cons_cons, MayPrecede, text]
  have hnames : ((codesOf tangled).flatMap names).map String.ofList = ["x", "y"] := by
    decide +kernel
  obtain ⟨hparameters, -⟩ := parameters_of_segments (.text "q") tangled hchain
  rw [hnames] at hparameters
  exact ⟨by decide +kernel, hparameters.unique (.eraseDups ["x", "y"])⟩

end Segment
end CallAtlas.Query
