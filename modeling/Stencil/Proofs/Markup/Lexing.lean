import Stencil.Markup.Lexeme
import Stencil.Proofs.Text.Parts

/-!
# Splitting markup into lexemes

The text of a lexeme is split off wherever what stands behind it cannot belong to it. What may
stand there depends on the lexeme: a name ends before most signs, a number not before a point.

* `Lexes` — a text is split into lexemes whatever of a kind stands behind it
* `lexes_identifier`, `lexes_integer`, `lexes_decimal`, `lexes_string`, `lexes_sign` — its cases
-/

namespace Stencil.Markup

/-! ## Texts that are split off -/

/-- A text is split into lexemes before everything of a kind. -/
def Lexes (ends : List Char → Prop) (cs : List Char) (ts : List Lexeme) : Prop :=
  ∀ rest, ends rest → lexFrom 0 (cs ++ rest) = (lexFrom 0 rest).map (ts ++ ·)

/-- What a name ends before. -/
def EndsName (rest : List Char) : Prop :=
  ∀ c ∈ rest.head?, continuesIdentifier c = false ∧ c ≠ '?'

/-- What a name and a number end before. -/
def EndsWord (rest : List Char) : Prop :=
  ∀ c ∈ rest.head?, continuesIdentifier c = false ∧ c ≠ '?' ∧ c ≠ '.'

/-- Every text. -/
def Anything (_ : List Char) : Prop := True

theorem EndsWord.endsName {rest : List Char} (h : EndsWord rest) : EndsName rest :=
  fun c hc => ⟨(h c hc).1, (h c hc).2.1⟩

theorem endsWord_nil : EndsWord [] := by
  intro c hc
  cases hc

theorem endsWord_cons {c : Char} (hcontinues : continuesIdentifier c = false) (hmark : c ≠ '?')
    (hpoint : c ≠ '.') (rest : List Char) : EndsWord (c :: rest) := by
  rintro d ⟨⟩
  exact ⟨hcontinues, hmark, hpoint⟩

namespace Lexes

variable {ends ends' : List Char → Prop} {cs ds : List Char} {ts us : List Lexeme}

theorem weaken (h : Lexes ends cs ts) (hends : ∀ rest, ends' rest → ends rest) :
    Lexes ends' cs ts :=
  fun rest hrest => h rest (hends rest hrest)

theorem nil : Lexes ends [] [] := by
  intro rest _
  rw [List.nil_append]
  cases lexFrom 0 rest with
  | error e => rfl
  | ok ts => rfl

/-- A text and one that it ends before are split into the lexemes of both. -/
theorem append (h : Lexes ends cs ts) (h' : Lexes ends' ds us)
    (hends : ∀ rest, ends' rest → ends (ds ++ rest)) : Lexes ends' (cs ++ ds) (ts ++ us) := by
  intro rest hrest
  rw [List.append_assoc, h _ (hends rest hrest), h' rest hrest]
  cases lexFrom 0 rest with
  | error e => rfl
  | ok behind => exact congrArg Except.ok (List.append_assoc ts us behind).symm

theorem lex_eq (h : Lexes ends cs ts) (hnil : ends []) : lex cs = .ok ts := by
  have hall := h [] hnil
  rw [List.append_nil] at hall
  rw [lex, hall, lexFrom]
  exact congrArg Except.ok (List.append_nil ts)

end Lexes

theorem lexFrom_length_append (skipped rest : List Char) :
    lexFrom skipped.length (skipped ++ rest) = lexFrom 0 rest := by
  induction skipped with
  | nil => rfl
  | cons c skipped ih => exact ih

/-- A lexeme that takes in a text is split off. -/
theorem lexes_of_lexemeAt {ends : List Char → Prop} {c : Char} {cs : List Char} {t : Lexeme}
    (hblank : Text.isBlank c = false)
    (h : ∀ rest, ends rest → lexemeAt c (cs ++ rest) = .ok (t, cs.length)) :
    Lexes ends (c :: cs) [t] := by
  intro rest hrest
  rw [List.cons_append, lexFrom, if_neg (by rw [hblank]; decide), h rest hrest]
  exact congrArg (Except.map (t :: ·)) (lexFrom_length_append cs rest)

/-- A space is dropped. -/
theorem lexes_space : Lexes Anything [' '] [] := by
  intro rest hrest
  have hblank : lexFrom 0 ([' '] ++ rest) = lexFrom 0 rest := rfl
  rw [hblank]
  exact Lexes.nil rest hrest

/-! ## Characters -/

theorem isAlpha_iff_toNat {c : Char} :
    c.isAlpha ↔ 65 ≤ c.toNat ∧ c.toNat ≤ 90 ∨ 97 ≤ c.toNat ∧ c.toNat ≤ 122 := by
  show (decide (c.val ≥ 65 ∧ c.val ≤ 90) || (c.val ≥ 97 && c.val ≤ 122)) = true ↔ _
  simp only [Bool.or_eq_true, Bool.and_eq_true, decide_eq_true_eq, ge_iff_le,
    UInt32.le_iff_toNat_le]
  rfl

theorem isAlphanumeric_of_isAlpha {c : Char} (h : c.isAlpha) : Text.isAlphanumeric c := by
  have hascii : c.toNat < 0x80 := by
    have := isAlpha_iff_toNat.mp h
    omega
  simp [Text.isAlphanumeric, Text.isAlphabetic, hascii, h]

theorem isAlphanumeric_of_isDigit {c : Char} (h : c.isDigit) : Text.isAlphanumeric c := by
  have hascii : c.toNat < 0x80 :=
    Nat.lt_of_le_of_lt (Char.isDigit_iff_toNat.mp h).2 (by decide)
  simp [Text.isAlphanumeric, Text.isNumeric, hascii, h]

theorem continuesIdentifier_of_startsIdentifier {c : Char} (h : startsIdentifier c) :
    continuesIdentifier c := by
  simp only [startsIdentifier, Bool.or_eq_true] at h
  simp only [continuesIdentifier, Bool.or_eq_true]
  rcases h with h | h
  · exact .inl (.inl (isAlphanumeric_of_isAlpha h))
  · exact .inl (.inr h)

theorem not_isDigit_of_startsIdentifier {c : Char} (h : startsIdentifier c) :
    c.isDigit = false := by
  refine Bool.eq_false_iff.mpr fun hdigit => ?_
  have hrange : 48 ≤ c.toNat ∧ c.toNat ≤ 57 := Char.isDigit_iff_toNat.mp hdigit
  simp only [startsIdentifier, Bool.or_eq_true, beq_iff_eq] at h
  rcases h with h | rfl
  · have := isAlpha_iff_toNat.mp h
    omega
  · exact absurd hrange (by decide)

theorem continuesIdentifier_of_isDigit {c : Char} (h : c.isDigit) : continuesIdentifier c := by
  simp [continuesIdentifier, isAlphanumeric_of_isDigit h]

/-- The white space characters. -/
def blanks : List Char :=
  [0x9, 0xA, 0xB, 0xC, 0xD, 0x20, 0x85, 0xA0, 0x1680, 0x2000, 0x2001, 0x2002, 0x2003, 0x2004,
    0x2005, 0x2006, 0x2007, 0x2008, 0x2009, 0x200A, 0x2028, 0x2029, 0x202F, 0x205F, 0x3000].map
    Char.ofNat

theorem mem_blanks {c : Char} (h : Text.isBlank c) : c ∈ blanks := by
  refine List.mem_map.mpr ⟨c.toNat, ?_, Char.ofNat_toNat c⟩
  simp only [Text.isBlank, Bool.or_eq_true, Bool.and_eq_true, decide_eq_true_eq, beq_iff_eq] at h
  simp only [List.mem_cons, List.not_mem_nil, or_false]
  omega

theorem not_isBlank_of_continuesIdentifier {c : Char} (h : continuesIdentifier c) :
    Text.isBlank c = false := by
  have hnone : blanks.any continuesIdentifier = false := by decide +kernel
  exact Bool.eq_false_iff.mpr fun hblank => List.any_eq_false.mp hnone c (mem_blanks hblank) h

/-! ## Comparisons -/

theorem comparisonAt?_eq_none {c : Char} {rest : List Char} (hsign : c ∉ ['=', '!', '<', '>'])
    (hword : ∀ d after, c :: rest = "contains".toList ++ d :: after → Text.isBlank d = false) :
    comparisonAt? (c :: rest) = none := by
  have hnone : comparisonSymbols.find? (·.toList.isPrefixOf (c :: rest)) = none := by
    simp only [List.mem_cons, List.not_mem_nil, or_false, not_or] at hsign
    obtain ⟨h₁, h₂, h₃, h₄⟩ := hsign
    simp [comparisonSymbols, Ne.symm h₁, Ne.symm h₂, Ne.symm h₃, Ne.symm h₄]
  rw [comparisonAt?, hnone]
  dsimp only
  split
  · rename_i d after hprefix
    rw [hword d after (Text.isPrefixOf?_eq_some hprefix)]
    rfl
  · rfl

theorem comparisonAt?_eq_none_of_ne {c : Char} (hc : c ∉ ['=', '!', '<', '>', 'c'])
    (rest : List Char) : comparisonAt? (c :: rest) = none := by
  refine comparisonAt?_eq_none (fun hsign => hc ?_) fun d after heq => absurd ?_ hc
  · exact List.mem_append_left ['c'] hsign
  · rw [(List.cons_eq_cons.mp heq).1]
    decide

/-! ## Signs -/

/-- The signs that are lexemes whatever stands behind them. -/
theorem lexes_sign {c : Char} {kind : Kind}
    (h : (c, kind) ∈ [('|', Kind.pipe), (':', .colon), (',', .comma), ('[', .openSquare),
      (']', .closeSquare), ('(', .openRound), (')', .closeRound), ('?', .question)]) :
    Lexes Anything [c] [⟨kind, [c]⟩] := by
  have hsign : ∀ sign ∈ [('|', Kind.pipe), (':', .colon), (',', .comma), ('[', .openSquare),
      (']', .closeSquare), ('(', .openRound), (')', .closeRound), ('?', .question)],
      Text.isBlank sign.1 = false ∧ sign.1 ∉ ['=', '!', '<', '>', 'c'] ∧
      sign.1 ∉ ['.', '-', '\x27', '"'] ∧ sign.1.isDigit = false ∧
      startsIdentifier sign.1 = false ∧ signKind? sign.1 = some sign.2 := by
    decide
  obtain ⟨hblank, hcomparison, hother, hdigit, hstart, hkind⟩ := hsign (c, kind) h
  simp only [List.mem_cons, List.not_mem_nil, or_false, not_or] at hother
  refine lexes_of_lexemeAt hblank fun rest _ => ?_
  have hnumber : numberAt? (c :: rest) = none := by
    simp [numberAt?, hdigit, hother]
  rw [List.nil_append, lexemeAt, comparisonAt?_eq_none_of_ne hcomparison]
  simp [hnumber, hother, hstart, hkind]

/-- A point is a lexeme, but two are one. -/
theorem lexes_dot : Lexes (·.head? ≠ some '.') ['.'] [⟨.dot, ['.']⟩] := by
  refine lexes_of_lexemeAt rfl fun rest hrest => ?_
  rw [List.nil_append, lexemeAt, comparisonAt?_eq_none_of_ne (by decide)]
  simp [numberAt?, startsIdentifier, signKind?, hrest]

/-! ## Strings -/

/-- The two quotes that strings stand between. -/
def quotes : List Char := ['\x27', '"']

/-- A text between two of a quote is a string if it holds none. -/
theorem lexes_quoted {quote : Char} (hquote : quote ∈ quotes) {content : List Char}
    (h : quote ∉ content) :
    Lexes Anything (quote :: (content ++ [quote])) [⟨.string, content⟩] := by
  have hcases : quote = '\x27' ∨ quote = '"' := by simpa [quotes] using hquote
  have hother : Text.isBlank quote = false ∧ quote ∉ ['=', '!', '<', '>', 'c'] := by
    rcases hcases with rfl | rfl <;> decide
  obtain ⟨hblank, hcomparison⟩ := hother
  refine lexes_of_lexemeAt hblank fun rest _ => ?_
  have hcontent : (content ++ [quote] ++ rest).takeWhile (· ≠ quote) = content := by
    rw [List.append_assoc, List.takeWhile_append_of_pos]
    · simp
    · intro c hc
      simpa using ne_of_mem_of_not_mem hc h
  rw [lexemeAt, comparisonAt?_eq_none_of_ne hcomparison]
  simp only [hcontent]
  simp [hcases]

theorem lexes_string {content : List Char} (h : '\x27' ∉ content) :
    Lexes Anything ('\x27' :: (content ++ ['\x27'])) [⟨.string, content⟩] :=
  lexes_quoted (by decide) h

/-! ## Numbers -/

/-- The sign of a number. -/
def signOf (negative : Bool) : List Char :=
  if negative then ['-'] else []

theorem EndsName.not_isDigit {rest : List Char} (h : EndsName rest) :
    ∀ c ∈ rest.head?, c.isDigit = false := by
  intro c hc
  refine Bool.eq_false_iff.mpr fun hdigit => ?_
  have hcontinues := (h c hc).1
  rw [continuesIdentifier_of_isDigit hdigit] at hcontinues
  cases hcontinues

/-- The number that its part before the point makes with what stands behind that. -/
def numberFrom? (integer : List Char) : List Char → Option Lexeme
  | '.' :: rest =>
    let fraction := rest.takeWhile Char.isDigit
    if fraction.isEmpty || (rest.drop fraction.length).head? == some '.' then
      some ⟨.integer, integer⟩
    else some ⟨.decimal, integer ++ '.' :: fraction⟩
  | _ => some ⟨.integer, integer⟩

/-- The digits before the point are found behind the sign. -/
theorem numberAt?_eq (negative : Bool) {whole rest : List Char} (hne : whole ≠ [])
    (hdigits : ∀ c ∈ whole, c.isDigit) (hrest : ∀ c ∈ rest.head?, c.isDigit = false) :
    numberAt? (signOf negative ++ whole ++ rest) =
      numberFrom? (signOf negative ++ whole) rest := by
  have hwhole : (whole ++ rest).takeWhile Char.isDigit = whole :=
    Text.takeWhile_append_of_head hdigits hrest
  have hempty : ¬ whole.isEmpty := by simpa using hne
  cases negative with
  | true =>
    rw [signOf, if_pos rfl, List.singleton_append, List.cons_append, numberAt?]
    simp only [List.length_singleton, List.drop_succ_cons, List.drop_zero, hwhole, if_neg hempty]
    simp only [List.singleton_append, List.length_cons, List.drop_succ_cons, List.drop_left]
    rfl
  | false =>
    rw [signOf, if_neg (by decide), List.nil_append, numberAt?]
    · simp only [List.length_nil, List.drop_zero, hwhole, if_neg hempty]
      simp only [List.nil_append, List.drop_left]
      rfl
    · -- A hyphen in front would be one of the digits.
      rintro tail heq
      have hhead : '-' ∈ whole := by
        cases whole with
        | nil => exact absurd rfl hne
        | cons d ds => simp [(List.cons_eq_cons.mp heq).1]
      exact absurd (hdigits '-' hhead) (by decide)

theorem lexes_number {ends : List Char → Prop} {c : Char} {cs : List Char} {t : Lexeme}
    (hc : c.isDigit ∨ c = '-') (ht : t.text = c :: cs)
    (h : ∀ rest, ends rest → numberAt? (c :: cs ++ rest) = some t) : Lexes ends (c :: cs) [t] := by
  have hcontinues : continuesIdentifier c := by
    rcases hc with hc | rfl
    · exact continuesIdentifier_of_isDigit hc
    · rfl
  have hother : c ∉ ['=', '!', '<', '>', 'c', '\x27', '"'] := by
    have hnone : ['=', '!', '<', '>', 'c', '\x27', '"'].any
        (fun d => d.isDigit || d == '-') = false := by
      decide
    exact fun hmem => List.any_eq_false.mp hnone c hmem (by simpa using hc)
  refine lexes_of_lexemeAt (not_isBlank_of_continuesIdentifier hcontinues) fun rest hrest => ?_
  have hnumber := h rest hrest
  rw [List.cons_append] at hnumber
  have hcomparison : c ∉ ['=', '!', '<', '>', 'c'] :=
    fun hmem => hother (List.mem_append_left ['\x27', '"'] hmem)
  rw [lexemeAt, comparisonAt?_eq_none_of_ne hcomparison]
  simp only [List.mem_cons, List.not_mem_nil, or_false, not_or] at hother
  simp [hother, hnumber, ht]

theorem exists_signOf_append (negative : Bool) {whole : List Char} (hne : whole ≠ [])
    (hdigits : ∀ c ∈ whole, c.isDigit) :
    ∃ c cs, signOf negative ++ whole = c :: cs ∧ (c.isDigit ∨ c = '-') := by
  cases negative with
  | true => exact ⟨'-', whole, rfl, .inr rfl⟩
  | false =>
    cases whole with
    | nil => exact absurd rfl hne
    | cons c cs => exact ⟨c, cs, rfl, .inl (hdigits c List.mem_cons_self)⟩

/-- Digits, which may follow a sign, are an integer. -/
theorem lexes_integer (negative : Bool) {whole : List Char} (hne : whole ≠ [])
    (hdigits : ∀ c ∈ whole, c.isDigit) :
    Lexes EndsWord (signOf negative ++ whole) [⟨.integer, signOf negative ++ whole⟩] := by
  obtain ⟨c, cs, heq, hc⟩ := exists_signOf_append negative hne hdigits
  have hnumber : ∀ rest, EndsWord rest →
      numberAt? (signOf negative ++ whole ++ rest) =
        some ⟨.integer, signOf negative ++ whole⟩ := by
    intro rest hrest
    rw [numberAt?_eq negative hne hdigits hrest.endsName.not_isDigit, numberFrom?]
    -- Only behind a point would the digits go on as a fraction.
    rintro behind rfl
    exact (hrest '.' rfl).2.2 rfl
  rw [heq] at hnumber ⊢
  exact lexes_number hc rfl hnumber

/-- Digits, a point and further digits are a decimal. -/
theorem lexes_decimal (negative : Bool) {whole behind : List Char} (hne : whole ≠ [])
    (hdigits : ∀ c ∈ whole, c.isDigit) (hbehind : behind ≠ [])
    (hbehind_digits : ∀ c ∈ behind, c.isDigit) :
    Lexes EndsWord (signOf negative ++ (whole ++ '.' :: behind))
      [⟨.decimal, signOf negative ++ (whole ++ '.' :: behind)⟩] := by
  obtain ⟨c, cs, heq, hc⟩ := exists_signOf_append negative hne hdigits
  have hnumber : ∀ rest, EndsWord rest →
      numberAt? (signOf negative ++ (whole ++ '.' :: behind) ++ rest) =
        some ⟨.decimal, signOf negative ++ (whole ++ '.' :: behind)⟩ := by
    intro rest hrest
    have hfraction : (behind ++ rest).takeWhile Char.isDigit = behind :=
      Text.takeWhile_append_of_head hbehind_digits hrest.endsName.not_isDigit
    -- Two points with digits between them would not be those of a decimal.
    have hpoint : rest.head? ≠ some '.' := fun h => (hrest '.' h).2.2 rfl
    have hassoc : signOf negative ++ (whole ++ '.' :: behind) ++ rest =
        signOf negative ++ whole ++ '.' :: (behind ++ rest) := by
      simp [List.append_assoc]
    rw [hassoc, numberAt?_eq negative hne hdigits (by rintro d ⟨⟩; rfl), numberFrom?]
    simp only [hfraction, List.drop_left]
    simp [hbehind, hpoint]
  rw [← List.append_assoc, heq, List.cons_append] at hnumber ⊢
  exact lexes_number hc rfl hnumber

/-! ## Identifiers -/

/-- Whether a text is an identifier wherever a name ends behind it. The word `contains` is not:
before white space it is a comparison. -/
def isIdentifier (cs : List Char) : Bool :=
  cs.head?.any startsIdentifier && identifierAt cs == cs && cs != "contains".toList

/-- How an identifier is made: a word, and behind it there may be a question mark. -/
structure Spells (word mark : List Char) : Prop where
  continues : ∀ c ∈ word, continuesIdentifier c
  mark : mark = [] ∨ mark = ['?']

theorem Spells.identifierAt_append {word mark rest : List Char} (h : Spells word mark)
    (hrest : EndsName rest) : identifierAt (word ++ mark ++ rest) = word ++ mark := by
  have hbehind : ∀ c ∈ (mark ++ rest).head?, continuesIdentifier c = false := by
    rcases h.mark with rfl | rfl
    · exact fun c hc => (hrest c hc).1
    · rintro c ⟨⟩
      rfl
  have hword : (word ++ mark ++ rest).takeWhile continuesIdentifier = word := by
    rw [List.append_assoc]
    exact Text.takeWhile_append_of_head h.continues hbehind
  simp only [identifierAt, hword]
  rw [List.append_assoc, List.drop_left]
  rcases h.mark with rfl | rfl
  · rw [List.nil_append, List.append_nil]
    split
    · rename_i behind
      exact absurd rfl (hrest '?' rfl).2
    · rfl
  · rfl

theorem exists_spells (cs : List Char) :
    ∃ word mark, identifierAt cs = word ++ mark ∧ Spells word mark := by
  have hword : ∀ c ∈ cs.takeWhile continuesIdentifier, continuesIdentifier c :=
    fun c => List.mem_takeWhile_imp
  rw [identifierAt]
  split
  · exact ⟨_, ['?'], rfl, hword, .inr rfl⟩
  · exact ⟨_, [], (List.append_nil _).symm, hword, .inl rfl⟩

theorem Spells.not_isBlank {word mark : List Char} (h : Spells word mark) :
    ∀ c ∈ word ++ mark, Text.isBlank c = false := by
  intro c hc
  rcases List.mem_append.mp hc with hword | hmark
  · exact not_isBlank_of_continuesIdentifier (h.continues c hword)
  · rcases h.mark with rfl | rfl
    · cases hmark
    · rw [List.mem_singleton.mp hmark]
      rfl

variable {cs : List Char}

theorem exists_cons_of_isIdentifier (h : isIdentifier cs) :
    ∃ c rest, cs = c :: rest ∧ startsIdentifier c := by
  cases cs with
  | nil => cases h
  | cons c rest =>
    simp only [isIdentifier, Bool.and_eq_true] at h
    exact ⟨c, rest, rfl, h.1.1⟩

theorem exists_spells_of_isIdentifier (h : isIdentifier cs) :
    ∃ word mark, cs = word ++ mark ∧ Spells word mark := by
  simp only [isIdentifier, Bool.and_eq_true, beq_iff_eq] at h
  obtain ⟨word, mark, hspell, hspells⟩ := exists_spells cs
  exact ⟨word, mark, h.1.2.symm.trans hspell, hspells⟩

theorem ne_contains_of_isIdentifier (h : isIdentifier cs) : cs ≠ "contains".toList := by
  simp only [isIdentifier, Bool.and_eq_true, bne_iff_ne] at h
  exact h.2

/-- Neither an identifier nor what it continues to is a comparison. -/
theorem comparisonAt?_of_isIdentifier (h : isIdentifier cs) {rest : List Char}
    (hrest : EndsName rest) : comparisonAt? (cs ++ rest) = none := by
  obtain ⟨c, behind, rfl, hstart⟩ := exists_cons_of_isIdentifier h
  obtain ⟨word, mark, hspell, hspells⟩ := exists_spells_of_isIdentifier h
  refine comparisonAt?_eq_none (fun hsign => ?_)
    fun d after (heq : c :: behind ++ rest = "contains".toList ++ d :: after) => ?_
  · have hnone : ['=', '!', '<', '>'].any startsIdentifier = false := by decide
    exact List.any_eq_false.mp hnone c hsign hstart
  · rcases List.append_eq_append_iff.mp heq with ⟨left, hcontains, hbehind⟩ | ⟨left, hcs, hafter⟩
    · -- The name ends within the word, which goes on.
      cases left with
      | nil => exact absurd (List.append_nil _ ▸ hcontains).symm (ne_contains_of_isIdentifier h)
      | cons e left =>
        have hall : "contains".toList.all continuesIdentifier := by decide
        have he : continuesIdentifier e := List.all_eq_true.mp hall e (by rw [hcontains]; simp)
        rw [hbehind] at hrest
        rw [(hrest e rfl).1] at he
        cases he
    · -- The word ends within the name, which goes on.
      cases left with
      | nil => exact absurd (hcs.trans (List.append_nil _)) (ne_contains_of_isIdentifier h)
      | cons e left =>
        obtain rfl : d = e := (List.cons_eq_cons.mp hafter).1
        refine hspells.not_isBlank d ?_
        rw [← hspell, hcs]
        simp

/-- An identifier is split off where a name ends behind it. -/
theorem lexes_identifier (h : isIdentifier cs) : Lexes EndsName cs [⟨.identifier, cs⟩] := by
  have hcomparison := fun rest (hrest : EndsName rest) => comparisonAt?_of_isIdentifier h hrest
  obtain ⟨word, mark, hspell, hspells⟩ := exists_spells_of_isIdentifier h
  obtain ⟨c, behind, rfl, hstart⟩ := exists_cons_of_isIdentifier h
  -- Comparisons, strings and numbers are looked for first.
  have hother : c ∉ ['-', '\x27', '"'] := by
    have hnone : ['-', '\x27', '"'].any startsIdentifier = false := by decide
    exact fun hmem => List.any_eq_false.mp hnone c hmem hstart
  have hdigit := not_isDigit_of_startsIdentifier hstart
  have hblank := not_isBlank_of_continuesIdentifier (continuesIdentifier_of_startsIdentifier hstart)
  simp only [List.mem_cons, List.not_mem_nil, or_false, not_or] at hother
  refine lexes_of_lexemeAt hblank fun rest hrest => ?_
  have hnumber : numberAt? (c :: (behind ++ rest)) = none := by
    simp [numberAt?, hdigit, hother]
  have hidentifier : identifierAt (c :: (behind ++ rest)) = c :: behind := by
    rw [← List.cons_append, hspell]
    exact hspells.identifierAt_append hrest
  have hnone := hcomparison rest hrest
  rw [List.cons_append] at hnone
  rw [lexemeAt, hnone]
  simp [hother, hnumber, hstart, hidentifier]

/-! ### Identifiers are what is split off -/

theorem identifierAt_idem (cs : List Char) :
    identifierAt (identifierAt cs) = identifierAt cs := by
  obtain ⟨word, mark, hspell, hspells⟩ := exists_spells cs
  have hends : EndsName [] := endsWord_nil.endsName
  have hanew := hspells.identifierAt_append hends
  rw [List.append_nil] at hanew
  rw [hspell, hanew]

theorem head?_identifierAt {c : Char} (h : continuesIdentifier c) (cs : List Char) :
    (identifierAt (c :: cs)).head? = some c := by
  simp only [identifierAt, List.takeWhile_cons, h, if_true, List.length_cons, List.drop_succ_cons]
  split <;> rfl

theorem numberAt?_kind {t : Lexeme} (h : numberAt? cs = some t) : t.kind ≠ .identifier := by
  intro hkind
  unfold numberAt? at h
  dsimp only at h
  split at h
  -- With a hyphen and without one.
  all_goals
    split at h
    · cases h
    · split at h
      · split at h
        · cases h
          cases hkind
        · cases h
          cases hkind
      · cases h
        cases hkind

theorem signKind?_ne_identifier (c : Char) : signKind? c ≠ some .identifier := by
  unfold signKind?
  split <;> decide

theorem isIdentifier_of_lexemeAt {c : Char} {t : Lexeme} {n : Nat}
    (h : lexemeAt c cs = .ok (t, n)) (hkind : t.kind = .identifier)
    (hne : t.text ≠ "contains".toList) : isIdentifier t.text := by
  unfold lexemeAt at h
  dsimp only at h
  split at h
  · cases h
    cases hkind
  · split at h
    · split at h
      · cases h
        cases hkind
      · cases h
    · split at h
      · rename_i hnumber
        cases h
        exact absurd hkind (numberAt?_kind hnumber)
      · split at h
        · rename_i hstart
          cases h
          have hhead := head?_identifierAt (continuesIdentifier_of_startsIdentifier hstart) cs
          simp only [isIdentifier, Bool.and_eq_true, beq_iff_eq, bne_iff_ne]
          refine ⟨⟨?_, identifierAt_idem _⟩, hne⟩
          rw [hhead]
          exact hstart
        · split at h
          · cases h
            cases hkind
          · split at h
            · rename_i hsign
              cases h
              exact absurd (hkind ▸ hsign) (signKind?_ne_identifier c)
            · cases h

/-- Whatever a text is split into stands at the beginning of a text. -/
theorem exists_lexemeAt_of_mem_lexFrom {skip : Nat} {ts : List Lexeme}
    (h : lexFrom skip cs = .ok ts) : ∀ t ∈ ts, ∃ c rest n, lexemeAt c rest = .ok (t, n) := by
  fun_induction lexFrom skip cs generalizing ts with
  | case1 =>
    cases h
    intro t ht
    cases ht
  | case2 skip c rest ih => exact ih h
  | case3 c rest hblank ih => exact ih h
  | case4 c rest hblank e hlexeme => cases h
  | case5 c rest hblank lexeme skip hlexeme ih =>
    cases hrest : lexFrom skip rest with
    | error e =>
      rw [hrest] at h
      cases h
    | ok us =>
      rw [hrest] at h
      cases h
      exact List.forall_mem_cons.mpr ⟨⟨c, rest, skip, hlexeme⟩, ih hrest⟩

end Stencil.Markup
