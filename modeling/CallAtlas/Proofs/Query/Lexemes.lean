import CallAtlas.Proofs.Occurrences
import CallAtlas.Proofs.Query.Scanning
import CallAtlas.Query.Compiled
import CallAtlas.Store.Token
import Mathlib.Data.List.Chain

/-! Statements written as the store reads them, one word, number, operator, literal, quoted name or
placeholder after the other. The parameters are the placeholders, but for those that a word runs
into. -/
namespace CallAtlas.Query

open Text

/-- The characters of bare words. A dollar sign is none of them, for like the other sigils it begins
a placeholder wherever it stands. -/
def isBare (c : Char) : Bool :=
  isPlainWord c || decide (128 ≤ c.toNat)

def operators : List (List Char) :=
  ["(", ")", ";", ",", ".", "+", "-", "*", "/", "%", "=", "==", "<", "<=", "<>", "<<", ">", ">=",
    ">>", "!=", "|", "||", "&", "~", "->", "->>"].map String.toList

def commentOpeners : List (List Char) :=
  [['-', '-'], ['/', '*']]

def AreDigits (cs : List Char) : Prop :=
  ∀ c ∈ cs, c.isDigit = true

inductive IsMantissa : List Char → Prop
  | whole {digits} (hne : digits ≠ []) (h : AreDigits digits) : IsMantissa digits
  | pointed {whole fraction} (hne : whole ++ fraction ≠ []) (hwhole : AreDigits whole)
      (hfraction : AreDigits fraction) : IsMantissa (whole ++ '.' :: fraction)

inductive IsNumber : List Char → Prop
  | plain {mantissa} (h : IsMantissa mantissa) : IsNumber mantissa
  | scaled {mantissa sign digits} {letter : Char} (h : IsMantissa mantissa)
      (hletter : letter = 'e' ∨ letter = 'E') (hsign : sign ∈ [[], ['+'], ['-']])
      (hne : digits ≠ []) (hdigits : AreDigits digits) :
      IsNumber (mantissa ++ letter :: (sign ++ digits))

section Characters

variable {a c : Char} {cs : List Char}

theorem isBare_of_isWord (h : isWord c = true) : isBare c = true := by
  unfold isWord at h
  split at h
  · rw [isBare, isPlainWord, h, Bool.true_or]
  next hascii => simp [isBare, Nat.le_of_not_lt hascii]

theorem isBare_of_isDigit (h : c.isDigit = true) : isBare c = true := by
  simp [isBare, isPlainWord, Char.isAlphanum, h]

theorem isSigil_of_kind {p : Char → Bool} (h : p c = true) (hcolon : p ':' = false)
    (hat : p '@' = false) (hdollar : p '$' = false) : isSigil c = false := by
  by_contra hsigil
  simp only [isSigil, Bool.not_eq_false, Bool.or_eq_true, beq_iff_eq] at hsigil
  rcases hsigil with (rfl | rfl) | rfl
  · simp [h] at hcolon
  · simp [h] at hat
  · simp [h] at hdollar

theorem isSigil_of_isBare (h : isBare c = true) : isSigil c = false :=
  isSigil_of_kind h (by decide) (by decide) (by decide)

theorem not_opens_of_ne (hdash : a ≠ '-') (hslash : a ≠ '/') : ¬Opens a c := by
  rintro (⟨rfl, rfl⟩ | ⟨rfl, rfl⟩)
  · exact hdash rfl
  · exact hslash rfl

theorem isCode_of_count {p : Char → Bool} (h : ∀ c ∈ cs, p c = true) (hsingle : p '\x27' = false)
    (hdouble : p '\x22' = false) (hslash : p '/' = false) (hdash : cs.count '-' ≤ 1) :
    IsCode cs := by
  have hother {c : Char} (hc : p c = false) : c ∉ cs := fun hmem => by simp [h c hmem] at hc
  refine ⟨hother hsingle, hother hdouble, fun hpair => ?_, fun hpair => ?_⟩
  · have htwo : 2 ≤ cs.count '-' := hpair.sublist.count_le '-'
    omega
  · exact hother hslash (hpair.subset List.mem_cons_self)

theorem isCode_of_forall {p : Char → Bool} (h : ∀ c ∈ cs, p c = true) (hsingle : p '\x27' = false)
    (hdouble : p '\x22' = false) (hslash : p '/' = false) (hdash : p '-' = false) : IsCode cs := by
  refine isCode_of_count h hsingle hdouble hslash ?_
  rw [List.count_eq_zero_of_not_mem fun hmem => by simp [h _ hmem] at hdash]
  exact Nat.zero_le 1

theorem IsMantissa.mem (h : IsMantissa cs) (hc : c ∈ cs) : c.isDigit = true ∨ c = '.' := by
  cases h with
  | whole _ h => exact .inl (h c hc)
  | pointed _ hwhole hfraction =>
    rcases List.mem_append.mp hc with hc | hc
    · exact .inl (hwhole c hc)
    · rcases List.mem_cons.mp hc with rfl | hc
      · exact .inr rfl
      · exact .inl (hfraction c hc)

theorem IsMantissa.ne_nil (h : IsMantissa cs) : cs ≠ [] := by
  cases h with
  | whole hne => exact hne
  | pointed => simp

theorem IsMantissa.dash_not_mem (h : IsMantissa cs) : '-' ∉ cs := by
  intro hmem
  rcases h.mem hmem with h | h <;> contradiction

theorem AreDigits.dash_not_mem (h : AreDigits cs) : '-' ∉ cs := fun hmem => by
  simpa using h '-' hmem

def isNumeric (c : Char) : Bool :=
  c.isDigit || ['.', 'e', 'E', '+', '-'].contains c

theorem IsMantissa.isNumeric (h : IsMantissa cs) (hc : c ∈ cs) : isNumeric c = true := by
  rcases h.mem hc with hdigit | rfl
  · simp [Query.isNumeric, hdigit]
  · decide

theorem IsNumber.isNumeric (h : IsNumber cs) (hc : c ∈ cs) : isNumeric c = true := by
  cases h with
  | plain h => exact h.isNumeric hc
  | scaled h hletter hsign _ hdigits =>
    rw [List.mem_append, List.mem_cons, List.mem_append] at hc
    rcases hc with hc | rfl | hc | hc
    · exact h.isNumeric hc
    · rcases hletter with rfl | rfl <;> decide
    · simp only [List.mem_cons, List.not_mem_nil, or_false] at hsign
      rcases hsign with rfl | rfl | rfl
      · contradiction
      · rw [List.mem_singleton.mp hc]
        decide
      · rw [List.mem_singleton.mp hc]
        decide
    · simp [Query.isNumeric, hdigits c hc]

theorem IsNumber.count_dash (h : IsNumber cs) : cs.count '-' ≤ 1 := by
  cases h with
  | plain h => simp [List.count_eq_zero_of_not_mem h.dash_not_mem]
  | @scaled mantissa sign digits letter h hletter hsign _ hdigits =>
    have hsign : sign.count '-' ≤ 1 := by
      simp only [List.mem_cons, List.not_mem_nil, or_false] at hsign
      rcases hsign with rfl | rfl | rfl <;> decide
    have hletter : letter ≠ '-' := by
      rcases hletter with rfl | rfl <;> decide
    rw [List.count_append, List.count_cons_of_ne hletter, List.count_append,
      List.count_eq_zero_of_not_mem h.dash_not_mem,
      List.count_eq_zero_of_not_mem hdigits.dash_not_mem]
    omega

theorem IsNumber.last (h : IsNumber cs) (ha : a ∈ cs.getLast?) : a.isDigit = true ∨ a = '.' := by
  cases h with
  | plain h => exact h.mem (List.mem_of_getLast? ha)
  | scaled _ _ _ hne hdigits =>
    rw [List.getLast?_append_of_ne_nil _ (by simp), List.getLast?_cons_of_ne_nil (by simp [hne]),
      List.getLast?_append_of_ne_nil _ hne] at ha
    exact .inl (hdigits a (List.mem_of_getLast? ha))

theorem IsNumber.ne_nil (h : IsNumber cs) : cs ≠ [] := by
  cases h with
  | plain h => exact h.ne_nil
  | scaled => simp

end Characters

/-- Hexadecimal numbers are written as words that begin with a digit. -/
inductive Lexeme
  | blank (c : Char) (isBlank : Store.Token.isBlank c = true)
  | word (first : Char) (rest : List Char) (isWord : (first :: rest).all isBare = true)
  | number (cs : List Char) (isNumber : IsNumber cs)
  | operator (cs : List Char) (isOperator : cs ∈ operators)
  | quoted (quote : Quote) (content : List Char)
  | backquoted (content : List Char)
  | bracketed (content : List Char) (isClosed : ']' ∉ content)
  | placeholder (sigil first : Char) (rest : List Char) (isSigil : isSigil sigil = true)
      (isNameStart : isNameStart first = true) (isName : rest.all isPlainWord = true)

namespace Lexeme

variable {t : Lexeme} {ts : List Lexeme} {cs : List Char} {a c : Char}

def text : Lexeme → List Char
  | blank c _ => [c]
  | word first rest _ => first :: rest
  | number cs _ => cs
  | operator cs _ => cs
  | quoted quote content => enclosed quote.mark content
  | backquoted content => enclosed '\x60' content
  | bracketed content _ => '[' :: (content ++ [']'])
  | placeholder sigil first rest .. => sigil :: first :: rest

def name? : Lexeme → Option (List Char)
  | placeholder _ first rest .. => some (first :: rest)
  | _ => none

/-- Whether a character would make a longer lexeme of one, or the beginning of a comment. -/
def isContinuedBy : Lexeme → Char → Bool
  | blank .., _ => false
  | word .., c => isBare c
  | number .., c => isBare c
  | operator cs _, c => (operators ++ commentOpeners).any (cs ++ [c]).isPrefixOf
  | quoted quote _, c => c == quote.mark
  | backquoted _, c => c == '\x60'
  | bracketed .., _ => false
  | placeholder .., c => isBare c

/-- Nothing need stand between two lexemes if the second does not go on with the first. -/
def MayPrecede (t u : Lexeme) : Prop :=
  ∀ c ∈ u.text.head?, t.isContinuedBy c = false

instance : DecidableRel MayPrecede := fun t u =>
  decidable_of_iff (u.text.head?.any t.isContinuedBy = false) (by
    cases h : u.text.head? <;> simp [MayPrecede, h])

/-- No literal or comment begins in a name between backquotes or brackets, and nothing in it reads
as a placeholder. -/
def IsOrdinary (t : Lexeme) : Prop :=
  match t with
  | backquoted _ | bracketed .. => IsCode t.text ∧ names t.text = []
  | _ => True

instance : DecidablePred IsOrdinary
  | backquoted _ | bracketed .. => inferInstanceAs (Decidable (_ ∧ _))
  | blank .. | word .. | number .. | operator .. | quoted .. | placeholder .. =>
    inferInstanceAs (Decidable True)

def endsInWord (t : Lexeme) : Bool :=
  t.text.getLast?.any isWord

/-- The names of the placeholders, but for those that stand right behind a word character. -/
def standing (attached : Bool) : List Lexeme → List (List Char)
  | [] => []
  | t :: ts => (if attached then [] else t.name?.toList) ++ standing t.endsInWord ts

def textOf (ts : List Lexeme) : List Char :=
  ts.flatMap text

@[simp] theorem textOf_nil : textOf [] = [] := rfl

@[simp] theorem textOf_cons (t : Lexeme) (ts : List Lexeme) :
    textOf (t :: ts) = t.text ++ textOf ts := rfl

def shown : Lexeme → List Char
  | quoted .. => [' ']
  | t => t.text

theorem operators_sound : ∀ o ∈ operators, o ≠ [] ∧ IsCode o ∧
    o.all (fun c => !isSigil c && !isBare c) = true := by
  decide +kernel

theorem operators_continued : ∀ o ∈ operators,
    (o.getLast? = some '-' → (operators ++ commentOpeners).any (o ++ ['-']).isPrefixOf = true) ∧
      (o.getLast? = some '/' →
        (operators ++ commentOpeners).any (o ++ ['*']).isPrefixOf = true) := by
  decide +kernel

theorem isSigil_isBare_of_mem_operator (h : cs ∈ operators) (hc : c ∈ cs) :
    isSigil c = false ∧ isBare c = false := by
  simpa using List.all_eq_true.mp (operators_sound cs h).2.2 c hc

theorem text_ne_nil (t : Lexeme) : t.text ≠ [] := by
  cases t with
  | number cs h => exact h.ne_nil
  | operator cs h => exact (operators_sound cs h).1
  | _ => exact List.cons_ne_nil _ _

/-- A lexeme ends in a character of bare words, and just these go on with it. Or it ends in another,
with which a comment begins only where the lexeme would go on. -/
theorem last_cases (ha : a ∈ t.shown.getLast?) :
    (isBare a = true ∧ ∀ c, t.isContinuedBy c = isBare c) ∨
      (isBare a = false ∧ isSigil a = false ∧ ∀ c, Opens a c → t.isContinuedBy c = true) := by
  -- Behind any other character nothing goes on, and no comment begins with one either.
  have hinert {cs : List Char} {b : Char} (hb : b ∈ cs.getLast?) (ha : a ∈ cs.getLast?)
      (hbare : isBare b = false) (hsigil : isSigil b = false) (hdash : b ≠ '-') (hslash : b ≠ '/') :
      isBare a = false ∧ isSigil a = false ∧ ∀ c, Opens a c → t.isContinuedBy c = true := by
    obtain rfl := Option.some.inj (hb.symm.trans ha)
    exact ⟨hbare, hsigil, fun c hc => (not_opens_of_ne hdash hslash hc).elim⟩
  cases t with
  | blank c hc =>
    simp only [Store.Token.isBlank, Bool.or_eq_true, beq_iff_eq] at hc
    right
    rcases hc with (((rfl | rfl) | rfl) | rfl) | rfl <;>
      exact hinert rfl ha (by decide) (by decide) (by decide) (by decide)
  | word first rest h =>
    exact .inl ⟨List.all_eq_true.mp h a (List.mem_of_getLast? ha), fun _ => rfl⟩
  | number cs h =>
    rcases h.last ha with hdigit | rfl
    · exact .inl ⟨isBare_of_isDigit hdigit, fun _ => rfl⟩
    · exact .inr (hinert ha ha (by decide) (by decide) (by decide) (by decide))
  | operator cs h =>
    obtain ⟨hsigil, hbare⟩ := isSigil_isBare_of_mem_operator h (List.mem_of_getLast? ha)
    refine .inr ⟨hbare, hsigil, ?_⟩
    rintro c (⟨rfl, rfl⟩ | ⟨rfl, rfl⟩)
    · exact (operators_continued cs h).1 ha
    · exact (operators_continued cs h).2 ha
  | quoted quote content =>
    exact .inr (hinert rfl ha (by decide) (by decide) (by decide) (by decide))
  | backquoted content =>
    exact .inr (hinert (List.getLast?_concat (l := '\x60' :: doubled '\x60' content)) ha
      (by decide) (by decide) (by decide) (by decide))
  | bracketed content h =>
    exact .inr (hinert (List.getLast?_concat (l := '[' :: content)) ha
      (by decide) (by decide) (by decide) (by decide))
  | placeholder sigil first rest _ hfirst hrest =>
    have hwords : ∀ c ∈ first :: rest, isWord c = true :=
      List.forall_mem_cons.mpr ⟨isWord_of_isNameStart hfirst,
        fun c hc => isWord_of_isPlainWord (List.all_eq_true.mp hrest c hc)⟩
    change a ∈ (sigil :: first :: rest).getLast? at ha
    rw [List.getLast?_cons_of_ne_nil (by simp)] at ha
    exact .inl ⟨isBare_of_isWord (hwords a (List.mem_of_getLast? ha)), fun _ => rfl⟩

theorem shown_eq (t : Lexeme) :
    (∃ quote content, t = quoted quote content) ∨ t.shown = t.text := by
  cases t with
  | quoted quote content => exact .inl ⟨quote, content, rfl⟩
  | _ => exact .inr rfl

theorem shown_ne_nil (t : Lexeme) : t.shown ≠ [] := by
  rcases t.shown_eq with ⟨quote, content, rfl⟩ | hshown
  · exact List.cons_ne_nil _ _
  · rw [hshown]
    exact t.text_ne_nil

theorem getLast?_quoted (quote : Quote) (content : List Char) :
    (quoted quote content).text.getLast? = some quote.mark :=
  List.getLast?_concat (l := quote.mark :: doubled quote.mark content)

theorem endsInWord_eq (ha : a ∈ t.shown.getLast?) : t.endsInWord = isWord a := by
  rcases t.shown_eq with ⟨quote, content, rfl⟩ | hshown
  · obtain rfl := Option.some.inj ha
    rw [endsInWord, getLast?_quoted]
    cases quote <;> decide +kernel
  · rw [hshown, Option.mem_def] at ha
    rw [endsInWord, ha, Option.any_some]

theorem isCode_shown (h : t.IsOrdinary) : IsCode t.shown := by
  cases t with
  | blank c hc =>
    refine isCode_of_forall (p := Store.Token.isBlank) ?_ rfl rfl rfl rfl
    exact List.forall_mem_singleton.mpr hc
  | word first rest hword =>
    exact isCode_of_forall (List.all_eq_true.mp hword) (by decide) (by decide) (by decide) (by decide)
  | number cs hcs => exact isCode_of_count (fun _ => hcs.isNumeric) rfl rfl rfl hcs.count_dash
  | operator cs hcs => exact (operators_sound cs hcs).2.1
  | quoted => exact (by decide : IsCode [' '])
  | backquoted | bracketed => exact h.1
  | placeholder sigil first rest hsigil hfirst hrest =>
    refine isCode_of_forall (p := fun c => isSigil c || isPlainWord c)
      (List.forall_mem_cons.mpr ⟨?_, List.forall_mem_cons.mpr ⟨?_, fun c hc => ?_⟩⟩)
      (by decide) (by decide) (by decide) (by decide)
    · simp [hsigil]
    · simp [isPlainWord_of_isNameStart hfirst]
    · simp [List.all_eq_true.mp hrest c hc]

theorem isContinuedBy_of_chain (h : (t :: ts).IsChain MayPrecede) (hc : c ∈ (textOf ts).head?) :
    t.isContinuedBy c = false := by
  cases ts with
  | nil => contradiction
  | cons u us =>
    refine (List.isChain_cons_cons.mp h).1 c ?_
    rwa [textOf_cons, List.head?_append_of_ne_nil _ u.text_ne_nil] at hc

theorem blanked_textOf_cons (h : (t :: ts).IsChain MayPrecede) (ht : t.IsOrdinary) :
    blanked (textOf (t :: ts)) = t.shown ++ blanked (textOf ts) := by
  have hseam : Meets (¬Opens · ·) t.shown (textOf ts) := by
    intro a ha c hc hopens
    have hcontinued := isContinuedBy_of_chain h hc
    rcases last_cases ha with ⟨hbare, -⟩ | ⟨-, -, hother⟩
    · rcases hopens with ⟨rfl, -⟩ | ⟨rfl, -⟩ <;> contradiction
    · rw [hother c hopens] at hcontinued
      contradiction
  rw [textOf_cons]
  cases t with
  | quoted quote content =>
    refine blanked_of_skip (skip?_enclosed quote (closeQuoted_mark fun d hd => ?_))
    simpa [isContinuedBy] using isContinuedBy_of_chain h hd
  | _ => exact blanked_append (isCode_shown ht) hseam

theorem head?_blanked (hc : c ∈ (blanked cs).head?) : c = ' ' ∨ c ∈ cs.head? := by
  cases cs with
  | nil =>
    rw [blanked] at hc
    contradiction
  | cons d cs =>
    cases hskip : skip? (d :: cs) with
    | some after =>
      rw [blanked_of_skip hskip] at hc
      exact .inl (Option.some.inj hc).symm
    | none =>
      rw [blanked_of_no_skip hskip] at hc
      exact .inr hc

theorem namesFrom_shown (ht : t.IsOrdinary) {before : Char} (hbefore : isSigil before = false) :
    namesFrom before t.shown = if isWord before then [] else t.name?.toList := by
  have hnone {cs : List Char} (hcs : namesFrom before cs = []) :
      namesFrom before cs = if isWord before then [] else (none : Option (List Char)).toList := by
    rw [hcs]
    simp
  cases t with
  | blank c hc =>
    exact hnone (namesFrom_of_no_sigil before (List.forall_mem_singleton.mpr
      (isSigil_of_kind (p := Store.Token.isBlank) hc rfl rfl rfl)))
  | word first rest h =>
    exact hnone (namesFrom_of_no_sigil before fun c hc =>
      isSigil_of_isBare (List.all_eq_true.mp h c hc))
  | number cs h =>
    exact hnone (namesFrom_of_no_sigil before fun c hc =>
      isSigil_of_kind (h.isNumeric hc) rfl rfl rfl)
  | operator cs h =>
    exact hnone (namesFrom_of_no_sigil before fun c hc => (isSigil_isBare_of_mem_operator h hc).1)
  | quoted => exact hnone rfl
  | backquoted content =>
    exact hnone ((namesFrom_cons_of_not_sigil before rfl).trans ht.2)
  | bracketed content h =>
    exact hnone ((namesFrom_cons_of_not_sigil before rfl).trans ht.2)
  | placeholder sigil first rest hsigil hfirst hrest =>
    have hnames := namesFrom_placeholder before hsigil hfirst
      fun c hc => isWord_of_isPlainWord (List.all_eq_true.mp hrest c hc)
    rwa [hbefore, Bool.or_false] at hnames

/-- Between two lexemes no name is made and none hidden, for the character before a lexeme is never a
sigil. -/
theorem namesFrom_blanked_textOf (h : ts.IsChain MayPrecede) (hordinary : ∀ t ∈ ts, t.IsOrdinary)
    {before : Char} (hbefore : isSigil before = false) :
    namesFrom before (blanked (textOf ts)) = standing (isWord before) ts := by
  induction ts generalizing before with
  | nil =>
    rw [textOf_nil, blanked]
    rfl
  | cons t ts ih =>
    obtain ⟨ht, hts⟩ := List.forall_mem_cons.mp hordinary
    obtain ⟨a, ha⟩ := Option.isSome_iff_exists.mp (List.getLast?_isSome.mpr t.shown_ne_nil)
    have hseam : Meets IsApart t.shown (blanked (textOf ts)) := by
      intro a ha c hc hword
      rcases head?_blanked hc with rfl | hc
      · exact absurd hword (by decide +kernel)
      · have hcontinued := isContinuedBy_of_chain h hc
        rcases last_cases ha with ⟨-, hall⟩ | ⟨hbare, hsigil, -⟩
        · rw [hall, isBare_of_isWord hword] at hcontinued
          contradiction
        · refine ⟨?_, hsigil⟩
          by_contra hword
          rw [isBare_of_isWord (by simpa using hword)] at hbare
          contradiction
    have hlast : isSigil a = false := by
      rcases last_cases ha with ⟨hbare, -⟩ | ⟨-, hsigil, -⟩
      · exact isSigil_of_isBare hbare
      · exact hsigil
    rw [blanked_textOf_cons h ht, namesFrom_append hseam, namesFrom_shown ht hbefore, ha,
      Option.getD_some, ih h.of_cons hts hlast, standing, endsInWord_eq ha]

theorem standing_eq_filterMap {attached : Bool}
    (hattached : attached = true → ∀ t ∈ ts.head?, t.name? = none)
    (h : ts.IsChain fun t u => t.endsInWord = true → u.name? = none) :
    standing attached ts = ts.filterMap name? := by
  induction ts generalizing attached with
  | nil => rfl
  | cons t ts ih =>
    obtain ⟨hnext, hts⟩ := List.isChain_cons.mp h
    rw [standing, ih (fun hends u hu => hnext u hu hends) hts]
    cases hname : t.name? with
    | none => simp [hname]
    | some name =>
      cases attached with
      | false => simp [hname]
      | true => simp [hattached rfl t rfl] at hname

/-- The parameters of a statement are the names of its placeholders, each once and in the order in
which they first occur, but for placeholders that a word character stands right before. -/
theorem parameters_of_lexemes (name : Json) (ts : List Lexeme) (h : ts.IsChain MayPrecede)
    (hordinary : ∀ t ∈ ts, t.IsOrdinary) :
    FirstOccurrences ((standing false ts).map String.ofList)
        (compile name (String.ofList (textOf ts))).parameters ∧
      ((ts.IsChain fun t u => t.endsInWord = true → u.name? = none) →
        FirstOccurrences ((ts.filterMap name?).map String.ofList)
          (compile name (String.ofList (textOf ts))).parameters) := by
  have hparameters : FirstOccurrences ((standing false ts).map String.ofList)
      (compile name (String.ofList (textOf ts))).parameters := by
    have hblank : isWord ' ' = false := by decide +kernel
    rw [compile, placeholders, String.toList_ofList, names,
      namesFrom_blanked_textOf h hordinary rfl, hblank]
    exact .eraseDups _
  refine ⟨hparameters, fun hnone => ?_⟩
  rwa [standing_eq_filterMap (by simp) hnone] at hparameters

def crowded (between : List Lexeme) : List Lexeme :=
  [word 'S' "ELECT".toList (by decide), blank ' ' rfl, quoted .single "it\x27s :q".toList,
    operator [','] (by decide), quoted .double ":r".toList, operator ['='] (by decide),
    bracketed "a:c".toList (by decide), operator ['-'] (by decide),
    placeholder ':' 'x' [] rfl rfl rfl, operator ['+'] (by decide),
    number (['.', '5'] ++ 'e' :: (['-'] ++ ['3']))
      (.scaled (@IsMantissa.pointed [] ['5'] (by decide) nofun (by simp [AreDigits])) (.inl rfl)
        (by decide) (by decide) (by simp [AreDigits])),
    operator ['*'] (by decide), placeholder '$' 'y' ['_', '1'] rfl rfl (by decide),
    operator ['|', '|'] (by decide), placeholder ':' 'x' [] rfl rfl rfl, blank ' ' rfl,
    word 'L' "IMIT".toList (by decide)] ++ between ++ [placeholder ':' 'n' [] rfl rfl rfl]

theorem parameters_of_lexemes_of_crowded :
    String.ofList (textOf (crowded [])) =
        "SELECT \x27it\x27\x27s :q\x27,\x22:r\x22=[a:c]-:x+.5e-3*$y_1||:x LIMIT:n" ∧
      (compile (.text "q") (String.ofList (textOf (crowded [])))).parameters = ["x", "y_1"] ∧
      (compile (.text "q") (String.ofList (textOf (crowded [blank ' ' rfl])))).parameters =
        ["x", "y_1", "n"] := by
  refine ⟨by decide +kernel, ?_, ?_⟩
  · have hstanding : (standing false (crowded [])).map String.ofList = ["x", "y_1", "x"] := by
      decide +kernel
    obtain ⟨hparameters, -⟩ :=
      parameters_of_lexemes (.text "q") (crowded []) (by decide +kernel) (by decide +kernel)
    rw [hstanding] at hparameters
    exact hparameters.unique (.eraseDups ["x", "y_1", "x"])
  · have hnames : ((crowded [blank ' ' rfl]).filterMap name?).map String.ofList =
        ["x", "y_1", "x", "n"] := by
      decide +kernel
    obtain ⟨-, hparameters⟩ := parameters_of_lexemes (.text "q") (crowded [blank ' ' rfl])
      (by decide +kernel) (by decide +kernel)
    have hall := hparameters (by decide +kernel)
    rw [hnames] at hall
    exact hall.unique (.eraseDups ["x", "y_1", "x", "n"])

def unspaced : List Lexeme :=
  [word 'S' "ELECT".toList (by decide), blank ' ' rfl, word 'n' "ame".toList (by decide),
    blank ' ' rfl, word 'F' "ROM".toList (by decide), blank ' ' rfl,
    word 'f' "unctions".toList (by decide), blank ' ' rfl, word 'L' "IMIT".toList (by decide),
    placeholder ':' 'n' [] rfl rfl rfl]

def columned : List Lexeme :=
  [word 'S' "ELECT".toList (by decide), blank ' ' rfl, bracketed "a :b".toList (by decide)]

/-- A placeholder is not declared if a word runs into it, and a column's name in brackets may
declare one that does not exist. -/
theorem parameters_of_unspaced_of_columned :
    unspaced.IsChain MayPrecede ∧ unspaced.filterMap name? = [['n']] ∧
      textOf unspaced = "SELECT name FROM functions LIMIT:n".toList ∧
      (compile (.text "q") "SELECT name FROM functions LIMIT:n").parameters = [] ∧
      columned.IsChain MayPrecede ∧ columned.filterMap name? = [] ∧
      textOf columned = "SELECT [a :b]".toList ∧
      (compile (.text "q") "SELECT [a :b]").parameters = ["b"] := by
  have hunspaced : (compile (.text "q") "SELECT name FROM functions LIMIT:n").parameters = [] := by
    rw [compile, placeholders, blanked_of_isCode (by decide +kernel)]
    decide +kernel
  have hcolumned : (compile (.text "q") "SELECT [a :b]").parameters = ["b"] := by
    rw [compile, placeholders, blanked_of_isCode (by decide +kernel)]
    decide +kernel
  exact ⟨by decide +kernel, by decide +kernel, by decide +kernel, hunspaced, by decide +kernel,
    by decide +kernel, by decide +kernel, hcolumned⟩

end Lexeme
end CallAtlas.Query
