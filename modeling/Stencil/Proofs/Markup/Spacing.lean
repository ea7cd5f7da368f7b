import Mathlib.Data.List.Basic
import Mathlib.Data.List.Find
import Stencil.Proofs.Markup.Conditions

/-!
# White space between lexemes

No lexeme goes on behind white space, and none becomes another one by it but the word `contains`. So
markup before and behind white space is split apart, and lexemes that are written with white space
behind each are split into themselves.

* `lexFrom_append` — markup before white space
* `IsLexeme` — the lexemes there are
* `Printed`, `lexes_printed` — a lexeme that is written
* `lex_spaced` — both together
-/

namespace Stencil.Markup

/-! ## Behind white space -/

/-- What begins with white space, if there is anything. -/
def Spaced (rest : List Char) : Prop :=
  ∀ c ∈ rest.head?, Text.isBlank c

theorem spaced_space (rest : List Char) : Spaced (' ' :: rest) := by
  rintro c ⟨⟩
  rfl

/-- The word that is a comparison before white space, and a name elsewhere. -/
def containsWord : Lexeme := ⟨.identifier, "contains".toList⟩

theorem not_continuesIdentifier_of_isBlank {c : Char} (h : Text.isBlank c) :
    continuesIdentifier c = false := by
  refine Bool.eq_false_iff.mpr fun hcontinues => ?_
  rw [not_isBlank_of_continuesIdentifier hcontinues] at h
  cases h

theorem not_isDigit_of_isBlank {c : Char} (h : Text.isBlank c) : c.isDigit = false := by
  refine Bool.eq_false_iff.mpr fun hdigit => ?_
  have hcontinues := continuesIdentifier_of_isDigit hdigit
  rw [not_continuesIdentifier_of_isBlank h] at hcontinues
  cases hcontinues

theorem drop_takeWhile_append (p : Char → Bool) (cs behind : List Char) :
    (cs ++ behind).drop (cs.takeWhile p).length = cs.drop (cs.takeWhile p).length ++ behind :=
  List.drop_append_of_le_length (List.takeWhile_prefix p).length_le

/-- An identifier is a word, and a question mark if one stands behind it. -/
theorem identifierAt_eq (cs : List Char) :
    identifierAt cs = cs.takeWhile continuesIdentifier ++
      if (cs.drop (cs.takeWhile continuesIdentifier).length).head? = some '?' then ['?']
      else [] := by
  rw [identifierAt]
  split
  · rename_i heq
    rw [heq, List.head?_cons, if_pos rfl]
  · rename_i hnot
    rw [if_neg, List.append_nil]
    intro hhead
    obtain ⟨tail, heq⟩ := List.head?_eq_some_iff.mp hhead
    exact hnot tail heq

/-- The hyphen at the beginning of a text. -/
def signAt (cs : List Char) : List Char :=
  signOf (cs.head? = some '-')

/-- The digits at the beginning of a text, behind a hyphen if there is one. -/
def digitsAt (cs : List Char) : List Char :=
  (cs.drop (signAt cs).length).takeWhile Char.isDigit

theorem signAt_begins (cs : List Char) : signAt cs <+: cs := by
  rw [signAt, signOf]
  split
  · rename_i hhead
    obtain ⟨tail, rfl⟩ := List.head?_eq_some_iff.mp (of_decide_eq_true hhead)
    exact ⟨tail, rfl⟩
  · exact List.nil_prefix

theorem signAt_append_digitsAt_begins (cs : List Char) : signAt cs ++ digitsAt cs <+: cs := by
  have hdigits : digitsAt cs <+: cs.drop (signAt cs).length := List.takeWhile_prefix _
  have hall := (List.prefix_append_right_inj (signAt cs)).mpr hdigits
  rwa [List.prefix_iff_eq_append.mp (signAt_begins cs)] at hall

/-- A number is what the digits at the beginning make with what stands behind them. -/
theorem numberAt?_eq_numberFrom? (cs : List Char) :
    numberAt? cs =
      if (digitsAt cs).isEmpty then none
      else numberFrom? (signAt cs ++ digitsAt cs)
        (cs.drop (signAt cs ++ digitsAt cs).length) := by
  by_cases hsign : ∃ tail, cs = '-' :: tail
  · obtain ⟨tail, rfl⟩ := hsign
    rfl
  · have hnone : signAt cs = [] := by
      refine if_neg ?_
      simpa [List.head?_eq_some_iff] using hsign
    rw [digitsAt, hnone, numberAt?]
    · rfl
    · exact fun tail h => hsign ⟨tail, h⟩

section

variable {behind : List Char} (hbehind : Spaced behind)

include hbehind

theorem Spaced.head?_ne {c : Char} (hc : Text.isBlank c = false) : behind.head? ≠ some c := by
  intro hhead
  rw [hbehind c hhead] at hc
  cases hc

/-- Characters that are not white space are taken as if nothing stood behind. -/
theorem Spaced.takeWhile_append {p : Char → Bool} (hp : ∀ c, Text.isBlank c → p c = false)
    (cs : List Char) : (cs ++ behind).takeWhile p = cs.takeWhile p := by
  induction cs with
  | nil =>
    cases behind with
    | nil => rfl
    | cons c rest => simp [hp c (hbehind c rfl)]
  | cons c cs ih => simp [List.takeWhile_cons, ih]

theorem Spaced.head?_append (cs : List Char) {c : Char} (hc : Text.isBlank c = false) :
    (cs ++ behind).head? = some c ↔ cs.head? = some c := by
  cases cs with
  | nil => simp [hbehind.head?_ne hc]
  | cons d cs => rfl

/-- A pattern without white space stands before white space, or nowhere. -/
theorem Spaced.isPrefixOf?_append {pattern : List Char}
    (hpattern : pattern.all (!Text.isBlank ·)) (cs : List Char) :
    pattern.isPrefixOf? (cs ++ behind) = (pattern.isPrefixOf? cs).map (· ++ behind) := by
  induction pattern generalizing cs with
  | nil => simp [List.isPrefixOf?]
  | cons p ps ih =>
    rw [List.all_cons, Bool.and_eq_true, Bool.not_eq_true'] at hpattern
    obtain ⟨hp, hps⟩ := hpattern
    cases cs with
    | nil =>
      cases behind with
      | nil => rfl
      | cons c rest =>
        have hne : ¬(p == c) = true := by
          rw [beq_iff_eq]
          rintro rfl
          exact hbehind.head?_ne hp rfl
        rw [List.nil_append, Text.isPrefixOf?_cons, if_neg hne]
        rfl
    | cons c cs =>
      rw [List.cons_append, Text.isPrefixOf?_cons, Text.isPrefixOf?_cons, ih hps]
      split <;> rfl

/-! ### The parts of lexemes -/

theorem Spaced.identifierAt_append (cs : List Char) :
    identifierAt (cs ++ behind) = identifierAt cs := by
  have hword := hbehind.takeWhile_append (fun c => not_continuesIdentifier_of_isBlank) cs
  rw [identifierAt_eq, identifierAt_eq, hword, drop_takeWhile_append]
  simp only [hbehind.head?_append _ (c := '?') rfl]

theorem Spaced.comparisonAt?_append {cs : List Char} (hcs : cs ≠ "contains".toList) :
    comparisonAt? (cs ++ behind) = comparisonAt? cs := by
  have hblank : ∀ symbol ∈ comparisonSymbols, symbol.toList.all (!Text.isBlank ·) := by decide
  have hsymbols : comparisonSymbols.find? (·.toList.isPrefixOf (cs ++ behind)) =
      comparisonSymbols.find? (·.toList.isPrefixOf cs) := by
    refine List.find?_congr fun symbol hsymbol => ?_
    rw [← List.isSome_isPrefixOf?_eq_isPrefixOf, ← List.isSome_isPrefixOf?_eq_isPrefixOf,
      hbehind.isPrefixOf?_append (hblank symbol hsymbol), Option.isSome_map]
  rw [comparisonAt?, comparisonAt?, hsymbols, hbehind.isPrefixOf?_append (by decide)]
  cases comparisonSymbols.find? (·.toList.isPrefixOf cs) with
  | some symbol => rfl
  | none =>
    cases hword : "contains".toList.isPrefixOf? cs with
    | none => rfl
    | some after =>
      cases after with
      | nil => exact absurd (Text.isPrefixOf?_eq_some hword) hcs
      | cons c rest => rfl

/-- What stands behind the digits of a number is looked at up to white space. -/
theorem Spaced.numberFrom?_append (integer rest : List Char) :
    numberFrom? integer (rest ++ behind) = numberFrom? integer rest := by
  by_cases hpoint : ∃ tail, rest = '.' :: tail
  · obtain ⟨tail, rfl⟩ := hpoint
    have hfraction := hbehind.takeWhile_append (fun c => not_isDigit_of_isBlank) tail
    have hhead : ∀ cs : List Char, ((cs ++ behind).head? == some '.') = (cs.head? == some '.') :=
      fun cs => Bool.eq_iff_iff.mpr (by simpa using hbehind.head?_append cs (c := '.') rfl)
    simp only [List.cons_append, numberFrom?, hfraction, drop_takeWhile_append, hhead]
  · rw [numberFrom?, numberFrom?]
    · exact fun tail h => hpoint ⟨tail, h⟩
    · intro tail h
      have hhead : rest.head? = some '.' := by
        rw [← hbehind.head?_append rest rfl, h]
        rfl
      obtain ⟨tail, hrest⟩ := List.head?_eq_some_iff.mp hhead
      exact hpoint ⟨tail, hrest⟩

theorem Spaced.signAt_append (cs : List Char) : signAt (cs ++ behind) = signAt cs := by
  rw [signAt, signAt]
  simp only [hbehind.head?_append cs (c := '-') rfl]

theorem Spaced.digitsAt_append (cs : List Char) : digitsAt (cs ++ behind) = digitsAt cs := by
  rw [digitsAt, digitsAt, hbehind.signAt_append,
    List.drop_append_of_le_length (signAt_begins cs).length_le]
  exact hbehind.takeWhile_append (fun c => not_isDigit_of_isBlank) _

theorem Spaced.numberAt?_append (cs : List Char) : numberAt? (cs ++ behind) = numberAt? cs := by
  rw [numberAt?_eq_numberFrom?, numberAt?_eq_numberFrom?, hbehind.digitsAt_append,
    hbehind.signAt_append,
    List.drop_append_of_le_length (signAt_append_digitsAt_begins cs).length_le,
    hbehind.numberFrom?_append]

end

/-! ### Lexemes -/

theorem comparisonAt?_begins {cs symbol : List Char} (h : comparisonAt? cs = some symbol) :
    symbol <+: cs := by
  unfold comparisonAt? at h
  split at h
  · rename_i found hfound
    cases h
    have hprefix := List.find?_some hfound
    exact List.isPrefixOf_iff_prefix.mp hprefix
  · split at h
    · rename_i c rest hword
      split at h
      · cases h
        exact ⟨c :: rest, (Text.isPrefixOf?_eq_some hword).symm⟩
      · cases h
    · cases h

theorem numberFrom?_begins {integer rest : List Char} {t : Lexeme}
    (h : numberFrom? integer rest = some t) : t.text <+: integer ++ rest := by
  unfold numberFrom? at h
  split at h
  · rename_i tail
    dsimp only at h
    split at h
    · cases h
      exact List.prefix_append integer _
    · cases h
      refine (List.prefix_append_right_inj integer).mpr ?_
      exact List.cons_prefix_cons.mpr ⟨rfl, List.takeWhile_prefix _⟩
  · cases h
    exact List.prefix_append integer _

theorem numberAt?_begins {cs : List Char} {t : Lexeme} (h : numberAt? cs = some t) :
    t.text <+: cs := by
  rw [numberAt?_eq_numberFrom?] at h
  split at h
  · cases h
  · have hprefix := numberFrom?_begins h
    rwa [List.prefix_iff_eq_append.mp (signAt_append_digitsAt_begins cs)] at hprefix

theorem identifierAt_begins (cs : List Char) : identifierAt cs <+: cs := by
  have hword := List.prefix_iff_eq_append.mp (List.takeWhile_prefix continuesIdentifier (l := cs))
  rw [identifierAt_eq]
  conv_rhs => rw [← hword]
  refine (List.prefix_append_right_inj _).mpr ?_
  split
  · rename_i hhead
    obtain ⟨tail, heq⟩ := List.head?_eq_some_iff.mp hhead
    rw [heq]
    exact List.prefix_append ['?'] tail
  · exact List.nil_prefix

/-- A lexeme takes in characters that are there. -/
theorem lexemeAt_le {c : Char} {rest : List Char} {t : Lexeme} {n : Nat}
    (h : lexemeAt c rest = .ok (t, n)) : n ≤ rest.length := by
  have hle : ∀ {text : List Char}, text <+: c :: rest → text.length - 1 ≤ rest.length :=
    fun hprefix => Nat.sub_le_of_le_add hprefix.length_le
  unfold lexemeAt at h
  dsimp only at h
  split at h
  · rename_i symbol hsymbol
    cases h
    exact hle (comparisonAt?_begins hsymbol)
  · split at h
    · split at h
      · rename_i hclosed
        cases h
        exact hclosed
      · cases h
    · split at h
      · rename_i number hnumber
        cases h
        exact hle (numberAt?_begins hnumber)
      · split at h
        · cases h
          exact hle (identifierAt_begins (c :: rest))
        · split at h
          · rename_i hpoints
            cases h
            cases rest with
            | nil => simp at hpoints
            | cons d rest => simp
          · split at h
            · cases h
              exact Nat.zero_le _
            · cases h

/-- A lexeme does not go on behind white space, and stays the same but for the word `contains`. -/
theorem Spaced.lexemeAt_append {behind : List Char} (hbehind : Spaced behind) {c : Char}
    {rest : List Char} (hcontains : c :: rest ≠ "contains".toList) {t : Lexeme} {n : Nat}
    (h : lexemeAt c rest = .ok (t, n)) : lexemeAt c (rest ++ behind) = .ok (t, n) := by
  have hcomparison := hbehind.comparisonAt?_append hcontains
  have hnumber := hbehind.numberAt?_append (c :: rest)
  have hidentifier := hbehind.identifierAt_append (c :: rest)
  have hpoint : ((rest ++ behind).head? == some '.') = (rest.head? == some '.') :=
    Bool.eq_iff_iff.mpr (by simpa using hbehind.head?_append rest (c := '.') rfl)
  rw [List.cons_append] at hcomparison hnumber hidentifier
  unfold lexemeAt at h ⊢
  dsimp only at h ⊢
  rw [hcomparison, hnumber, hidentifier, hpoint]
  split at h
  · exact h
  · split at h
    · rename_i hquote
      rw [if_pos hquote]
      split at h
      · -- The closing quote stands before the white space.
        rename_i hclosed
        have hcontent : (rest ++ behind).takeWhile (· ≠ c) = rest.takeWhile (· ≠ c) := by
          rw [List.takeWhile_append, if_neg hclosed.ne]
        rw [hcontent, if_pos (by rw [List.length_append]; omega)]
        exact h
      · cases h
    · rename_i hquote
      rw [if_neg hquote]
      exact h

/-- **Markup before white space is split as if nothing stood behind it,** unless it ends in the word
`contains`. -/
theorem lexFrom_append {skip : Nat} {cs : List Char} {ts : List Lexeme}
    (h : lexFrom skip cs = .ok ts) (hskip : skip ≤ cs.length)
    (hlast : ts.getLast? ≠ some containsWord) {behind : List Char} (hbehind : Spaced behind) :
    lexFrom skip (cs ++ behind) = (lexFrom 0 behind).map (ts ++ ·) := by
  have hnil : Except.map ([] ++ ·) (lexFrom 0 behind) = lexFrom 0 behind := by
    cases lexFrom 0 behind <;> rfl
  fun_induction lexFrom skip cs generalizing ts with
  | case1 skip =>
    obtain rfl : skip = 0 := Nat.le_zero.mp hskip
    cases h
    rw [List.nil_append, hnil]
  | case2 skip c rest ih => exact ih h (Nat.le_of_succ_le_succ hskip) hlast
  | case3 c rest hblank ih =>
    rw [List.cons_append, lexFrom, if_pos hblank]
    exact ih h (Nat.zero_le _) hlast
  | case4 c rest hblank e hlexeme => cases h
  | case5 c rest hblank lexeme skip hlexeme ih =>
    by_cases hcontains : c :: rest = "contains".toList
    · -- The word would be the last lexeme.
      obtain ⟨rfl, rfl⟩ := List.cons_eq_cons.mp hcontains
      cases hlexeme
      cases h
      exact absurd rfl hlast
    have happend := hbehind.lexemeAt_append hcontains hlexeme
    cases hrest : lexFrom skip rest with
    | error e =>
      rw [hrest] at h
      cases h
    | ok us =>
      rw [hrest] at h
      cases h
      have hlast' : us.getLast? ≠ some containsWord := by
        intro hus
        rw [List.getLast?_cons, hus] at hlast
        exact hlast rfl
      rw [List.cons_append, lexFrom, if_neg hblank, happend]
      dsimp only
      rw [ih hrest (lexemeAt_le hlexeme) hlast']
      cases lexFrom 0 behind <;> rfl

/-! ## The lexemes there are -/

/-- The characters that are lexemes by themselves. -/
def signs : List (Char × Kind) :=
  [('|', .pipe), ('.', .dot), (':', .colon), (',', .comma), ('[', .openSquare), (']', .closeSquare),
    ('(', .openRound), (')', .closeRound), ('?', .question), ('-', .dash), ('=', .equal)]

theorem mem_signs {c : Char} {kind : Kind} (h : signKind? c = some kind) : (c, kind) ∈ signs := by
  unfold signKind? at h
  split at h <;> cases h <;> decide

/-- What markup is split into: comparisons, strings, numbers, names and signs. -/
inductive IsLexeme : Lexeme → Prop where
  | comparison {symbol : String}
    (h : symbol ∈ ["==", "!=", "<>", "<", ">", "<=", ">=", "contains"]) :
    IsLexeme ⟨.comparison, symbol.toList⟩
  | string {quote : Char} (hquote : quote ∈ quotes) {content : List Char} (h : quote ∉ content) :
    IsLexeme ⟨.string, content⟩
  | integer (negative : Bool) {whole : List Char} (hne : whole ≠ [])
    (hdigits : ∀ c ∈ whole, c.isDigit) : IsLexeme ⟨.integer, signOf negative ++ whole⟩
  | decimal (negative : Bool) {whole behind : List Char} (hne : whole ≠ [])
    (hdigits : ∀ c ∈ whole, c.isDigit) (hbehind : behind ≠ [])
    (hbehind_digits : ∀ c ∈ behind, c.isDigit) :
    IsLexeme ⟨.decimal, signOf negative ++ (whole ++ '.' :: behind)⟩
  | identifier {cs : List Char} (h : isIdentifier cs) : IsLexeme ⟨.identifier, cs⟩
  | contains : IsLexeme containsWord
  | dotDot : IsLexeme ⟨.dotDot, ['.', '.']⟩
  | sign {c : Char} {kind : Kind} (h : (c, kind) ∈ signs) : IsLexeme ⟨kind, [c]⟩

theorem isLexeme_of_comparisonAt? {cs symbol : List Char} (h : comparisonAt? cs = some symbol) :
    IsLexeme ⟨.comparison, symbol⟩ := by
  unfold comparisonAt? at h
  split at h
  · rename_i found hfound
    cases h
    have hsymbols : ∀ s ∈ comparisonSymbols,
        s ∈ ["==", "!=", "<>", "<", ">", "<=", ">=", "contains"] := by
      decide
    exact .comparison (hsymbols found (List.mem_of_find?_eq_some hfound))
  · split at h
    · split at h
      · cases h
        exact .comparison (by decide)
      · cases h
    · cases h

theorem isLexeme_of_numberAt? {cs : List Char} {t : Lexeme} (h : numberAt? cs = some t) :
    IsLexeme t := by
  have hdigits : ∀ c ∈ digitsAt cs, c.isDigit := fun c => List.mem_takeWhile_imp
  rw [numberAt?_eq_numberFrom?] at h
  split at h
  · cases h
  · rename_i hempty
    have hne : digitsAt cs ≠ [] := by simpa using hempty
    unfold numberFrom? at h
    split at h
    · dsimp only at h
      split at h
      · cases h
        exact .integer _ hne hdigits
      · rename_i hfraction
        cases h
        rw [List.append_assoc]
        refine .decimal _ hne hdigits (fun hnil => hfraction ?_) fun c => List.mem_takeWhile_imp
        rw [hnil]
        rfl
    · cases h
      exact .integer _ hne hdigits

theorem isLexeme_of_lexemeAt {c : Char} {rest : List Char} {t : Lexeme} {n : Nat}
    (h : lexemeAt c rest = .ok (t, n)) : IsLexeme t := by
  have hname : t.kind = .identifier → IsLexeme t := by
    intro hkind
    obtain ⟨kind, text⟩ := t
    obtain rfl : kind = .identifier := hkind
    by_cases hcontains : text = "contains".toList
    · exact hcontains ▸ .contains
    · exact .identifier (isIdentifier_of_lexemeAt h rfl hcontains)
  unfold lexemeAt at h
  dsimp only at h
  split at h
  · rename_i symbol hsymbol
    cases h
    exact isLexeme_of_comparisonAt? hsymbol
  · split at h
    · rename_i hquote
      split at h
      · cases h
        have hmem : c ∈ quotes := by simpa [quotes] using hquote
        refine .string hmem fun hc => ?_
        have hne := List.mem_takeWhile_imp hc
        simp at hne
      · cases h
    · split at h
      · rename_i number hnumber
        cases h
        exact isLexeme_of_numberAt? hnumber
      · split at h
        · cases h
          exact hname rfl
        · split at h
          · cases h
            exact .dotDot
          · split at h
            · rename_i kind hkind
              cases h
              exact .sign (mem_signs hkind)
            · cases h

/-- Markup is split into nothing but these. -/
theorem isLexeme_of_mem_lex {cs : List Char} {ts : List Lexeme} (h : lex cs = .ok ts) :
    ∀ t ∈ ts, IsLexeme t := by
  intro t ht
  obtain ⟨c, rest, n, hlexeme⟩ := exists_lexemeAt_of_mem_lexFrom h t ht
  exact isLexeme_of_lexemeAt hlexeme

/-- The end of a markup is not one of its lexemes. -/
theorem IsLexeme.kind_ne_finish {t : Lexeme} (h : IsLexeme t) : t.kind ≠ .finish := by
  cases h with
  | sign h =>
    have hsigns : ∀ s ∈ signs, s.2 ≠ .finish := by decide
    exact hsigns _ h
  | _ => exact fun hkind => by cases hkind

/-! ## Lexemes that are written -/

/-- How a lexeme is written: a string between two of a quote that it does not hold, all others as
they are. -/
inductive Printed : Lexeme → List Char → Prop where
  | quoted {quote : Char} (hquote : quote ∈ quotes) {content : List Char} (h : quote ∉ content) :
    Printed ⟨.string, content⟩ (quote :: (content ++ [quote]))
  | plain {t : Lexeme} (h : t.kind ≠ .string) : Printed t t.text

theorem IsLexeme.exists_printed {t : Lexeme} (h : IsLexeme t) : ∃ text, Printed t text := by
  cases h with
  | string hquote hcontent => exact ⟨_, .quoted hquote hcontent⟩
  | sign h =>
    have hsigns : ∀ s ∈ signs, s.2 ≠ .string := by decide
    exact ⟨_, .plain (hsigns _ h)⟩
  | _ => exact ⟨_, .plain fun hkind => by cases hkind⟩

theorem exists_printed {ts : List Lexeme} (h : ∀ t ∈ ts, IsLexeme t) :
    ∃ texts, List.Forall₂ Printed ts texts := by
  induction ts with
  | nil => exact ⟨[], .nil⟩
  | cons t ts ih =>
    obtain ⟨ht, hts⟩ := List.forall_mem_cons.mp h
    obtain ⟨text, htext⟩ := ht.exists_printed
    obtain ⟨texts, htexts⟩ := ih hts
    exact ⟨text :: texts, .cons htext htexts⟩

/-- A lexeme that ends before white space is split off before a space. -/
theorem Lexes.space {ends : List Char → Prop} {cs : List Char} {ts : List Lexeme}
    (h : Lexes ends cs ts) (hends : ∀ rest, ends (' ' :: rest)) : Lexes Anything (cs ++ [' ']) ts := by
  have happend := h.append lexes_space fun rest _ => hends rest
  rwa [List.append_nil] at happend

theorem lexes_sign_space {c : Char} {kind : Kind} (h : (c, kind) ∈ signs) :
    Lexes Anything ([c] ++ [' ']) [⟨kind, [c]⟩] := by
  intro rest _
  simp only [signs, List.mem_cons, Prod.mk.injEq, List.not_mem_nil, or_false] at h
  rcases h with h | h | h | h | h | h | h | h | h | h | h <;> obtain ⟨rfl, rfl⟩ := h <;> rfl

/-- A lexeme that is written before a space is split off, unless it is the name `contains`. -/
theorem lexes_printed {t : Lexeme} (h : IsLexeme t) (hword : t ≠ containsWord) {text : List Char}
    (hprinted : Printed t text) : Lexes Anything (text ++ [' ']) [t] := by
  cases hprinted with
  | quoted hquote hcontent => exact (lexes_quoted hquote hcontent).space fun _ => trivial
  | plain hkind =>
    cases h with
    | comparison h => exact fun rest _ => lexes_comparison h rest trivial
    | string => exact absurd rfl hkind
    | integer negative hne hdigits => exact (lexes_integer negative hne hdigits).space endsWord_space
    | decimal negative hne hdigits hbehind hbehind_digits =>
      exact (lexes_decimal negative hne hdigits hbehind hbehind_digits).space endsWord_space
    | identifier h => exact (lexes_identifier h).space fun rest => (endsWord_space rest).endsName
    | contains => exact absurd rfl hword
    | dotDot => exact fun rest _ => rfl
    | sign h => exact lexes_sign_space h

/-- Lexemes that are written with a space behind each are split into themselves. -/
theorem lex_printed {ts : List Lexeme} {texts : List (List Char)}
    (h : ∀ t ∈ ts, IsLexeme t ∧ t ≠ containsWord) (hprinted : List.Forall₂ Printed ts texts) :
    lex (texts.flatMap (· ++ [' '])) = .ok ts := by
  induction hprinted with
  | nil => rfl
  | @cons t text ts texts hprinted _ ih =>
    obtain ⟨⟨hlexeme, hne⟩, hts⟩ := List.forall_mem_cons.mp h
    rw [List.flatMap_cons, lex, lexes_printed hlexeme hne hprinted _ trivial]
    have hrest := ih hts
    rw [lex] at hrest
    rw [hrest]
    rfl

/--
**Lexemes do not go on behind white space.** Markup before a space is split as if it stood alone,
unless its last lexeme is the name `contains`, and so is what stands behind the space. So lexemes
that markup can consist of are split into themselves if they are written with a space behind each.
-/
theorem lex_spaced :
    (∀ cs ds ts, lex cs = .ok ts → ts.getLast? ≠ some containsWord →
      lex (cs ++ ' ' :: ds) = (lex ds).map (ts ++ ·)) ∧
    (∀ ts : List Lexeme, (∀ t ∈ ts, (∃ cs, lex cs = .ok [t]) ∧ t ≠ containsWord) →
      (∃ texts, List.Forall₂ Printed ts texts) ∧
      ∀ texts, List.Forall₂ Printed ts texts → lex (texts.flatMap (· ++ [' '])) = .ok ts) ∧
    ∀ cs ts, lex cs = .ok ts → ∀ t ∈ ts, t.kind ≠ .finish := by
  refine ⟨fun cs ds ts h hlast => ?_, fun ts h => ?_, fun cs ts h t ht => ?_⟩
  · have happend := lexFrom_append h (Nat.zero_le _) hlast (spaced_space ds)
    have hspace : lexFrom 0 (' ' :: ds) = lexFrom 0 ds := rfl
    rwa [hspace] at happend
  · have hlexemes : ∀ t ∈ ts, IsLexeme t ∧ t ≠ containsWord := by
      intro t ht
      obtain ⟨⟨cs, hcs⟩, hne⟩ := h t ht
      exact ⟨isLexeme_of_mem_lex hcs t (List.mem_singleton_self t), hne⟩
    exact ⟨exists_printed fun t ht => (hlexemes t ht).1,
      fun texts hprinted => lex_printed hlexemes hprinted⟩
  · exact (isLexeme_of_mem_lex h t ht).kind_ne_finish

/-- A list of lexemes of all kinds, one of which holds a quote. -/
def assorted : List Lexeme :=
  [⟨.identifier, "empty?".toList⟩, ⟨.comparison, "contains".toList⟩, ⟨.string, "it's".toList⟩,
    ⟨.decimal, "-1.5".toList⟩, ⟨.dot, ['.']⟩, ⟨.dotDot, ['.', '.']⟩, ⟨.dash, ['-']⟩]

theorem lex_spaced_assorted :
    lex "1. -".toList = .ok [⟨.integer, ['1']⟩, ⟨.dot, ['.']⟩, ⟨.dash, ['-']⟩] ∧
      lex ("1. -".toList ++ ' ' :: "5 !".toList) = .error (.unexpectedCharacter '!') ∧
      lex "empty? contains \"it's\" -1.5 . .. - ".toList = .ok assorted ∧
      ∀ t ∈ assorted, t.kind ≠ .finish := by
  obtain ⟨happend, hprinted, hfinish⟩ := lex_spaced
  have hfirst : lex "1. -".toList = .ok [⟨.integer, ['1']⟩, ⟨.dot, ['.']⟩, ⟨.dash, ['-']⟩] := rfl
  have halone : ∀ t ∈ assorted, (∃ cs, lex cs = .ok [t]) ∧ t ≠ containsWord := by
    simp only [assorted, List.forall_mem_cons]
    exact ⟨⟨⟨"empty?".toList, rfl⟩, by decide⟩, ⟨⟨"contains ".toList, rfl⟩, by decide⟩,
      ⟨⟨"\"it's\"".toList, rfl⟩, by decide⟩, ⟨⟨"-1.5".toList, rfl⟩, by decide⟩,
      ⟨⟨".".toList, rfl⟩, by decide⟩, ⟨⟨"..".toList, rfl⟩, by decide⟩,
      ⟨⟨"-".toList, rfl⟩, by decide⟩, nofun⟩
  have htexts : List.Forall₂ Printed assorted
      ["empty?".toList, "contains".toList, "\"it's\"".toList, "-1.5".toList, ".".toList,
        "..".toList, "-".toList] :=
    .cons (.plain nofun) <| .cons (.plain nofun) <|
      .cons (@Printed.quoted '"' (by decide) "it's".toList (by decide)) <| .cons (.plain nofun) <|
      .cons (.plain nofun) <| .cons (.plain nofun) <| .cons (.plain nofun) .nil
  have hassorted := (hprinted assorted halone).2 _ htexts
  refine ⟨hfirst, ?_, hassorted, hfinish _ _ hassorted⟩
  exact happend _ "5 !".toList _ hfirst (by decide)

end Stencil.Markup
