import Stencil.Proofs.Calendar.Spellings
import Stencil.Proofs.Filter.Calls

/-!
# Dates

A number of seconds and the texts that spell it denote the same instant, so a date is written alike
for all of them.

* `Spells` — the texts that spell a number of seconds
* `Spells.instantOf?_eq` — they denote the same instant
* `valid_of_instantOf?` — what values denote are instants that a clock shows
* `spellings_alike` — dates for the spellings of an instant, and dates that are written again
-/

namespace Stencil.Filter

open Calendar

/-! ## Spellings -/

/-- The date of a number of seconds in universal time. -/
def dateOf (n : Int64) : Date :=
  Date.ofDay (n.toInt / 86400)

/-- Date and time of a number of seconds in universal time, divided by a character. -/
def universalText (divider : Char) (n : Int64) : List Char :=
  dateText (dateOf n) ++ divider ::
    clockText (n.toInt % 86400 / 3600).toNat (n.toInt % 3600 / 60).toNat (n.toInt % 60).toNat

/-- The texts that spell an instant: the number of seconds in digits, date and time, and date and
time with the offset of universal time. -/
inductive Spells (n : Int64) : List Char → Prop
  | seconds : Spells n (Integer.toText n)
  | universal : Spells n (universalText ' ' n)
  | offset : Spells n (universalText 'T' n ++ ['Z'])

/-- The instant of a number of seconds. -/
def instantOf (n : Int64) : Instant :=
  Instant.ofSeconds n.toInt

theorem spelling_instantOf (divider : Char) (n : Int64) :
    (instantOf n).spelling divider = universalText divider n := by
  have hhour : (instantOf n).hour = (n.toInt % 86400 / 3600).toNat := by
    simp only [Instant.hour, instantOf, Instant.ofSeconds, Instant.daySeconds]
    omega
  have hminute : (instantOf n).minute = (n.toInt % 3600 / 60).toNat := by
    simp only [Instant.minute, instantOf, Instant.ofSeconds, Instant.daySeconds]
    omega
  have hsecond : (instantOf n).secondOfMinute = (n.toInt % 60).toNat := by
    simp only [Instant.secondOfMinute, instantOf, Instant.ofSeconds, Instant.daySeconds,
      Instant.secondNanos]
    omega
  rw [Instant.spelling, hhour, hminute, hsecond]
  rfl

/-! ## Instants of texts -/

/-- No number is denoted where one of the characters is a hyphen. -/
theorem digitsValue?_eq_none {cs : List Char} (h : '-' ∈ cs) : Text.digitsValue? 10 cs = none :=
  Option.eq_none_iff_forall_ne_some.mpr fun _ hvalue =>
    ((Text.digitsValue?_eq_some_iff (by decide)).mp hvalue).not_mem (by decide) (by decide) h

/-- In an integer, only the first character may be a hyphen. -/
theorem integer_ofText?_eq_none {c : Char} {cs : List Char} (h : '-' ∈ cs) :
    Integer.ofText? (c :: cs) = none := by
  have hall : Text.digitsValue? 10 (c :: cs) = none :=
    digitsValue?_eq_none (List.mem_cons_of_mem c h)
  unfold Integer.ofText?
  split
  · rename_i heq
    rw [← (List.cons_eq_cons.mp heq).2, digitsValue?_eq_none h, Option.bind_none]
  · unfold Text.natural?
    split
    · rename_i heq
      rw [← (List.cons_eq_cons.mp heq).2, digitsValue?_eq_none h, Option.bind_none]
    · rw [hall, Option.bind_none]

/-- A date has a hyphen behind its first character. -/
theorem exists_dateText_append (d : Date) (rest : List Char) :
    ∃ c cs, dateText d ++ rest = c :: cs ∧ '-' ∈ cs := by
  have hne : yearSign d.year ++ padded 4 d.year.natAbs ≠ [] :=
    List.append_ne_nil_of_right_ne_nil _ (numeral_padded 4 _).ne_nil
  obtain ⟨c, cs, heq⟩ := List.exists_cons_of_ne_nil hne
  refine ⟨c, cs ++ '-' :: (padded 2 d.month ++ '-' :: padded 2 d.day) ++ rest, ?_, by simp⟩
  rw [dateText, heq, List.cons_append, List.cons_append]

/-! ## White space around spellings -/

section Trimmed

variable {left right : List Char}

/-- Between date and time there is white space, but not at the ends. -/
theorem trimmed_dateTime (left right : List Char) (d : Date) (hour minute second : Nat)
    (hleft : ∀ c ∈ left, Text.isBlank c) (hright : ∀ c ∈ right, Text.isBlank c) :
    Text.Trimmed (left ++ (dateText d ++ ' ' :: clockText hour minute second) ++ right)
      (dateText d ++ ' ' :: clockText hour minute second) where
  between := ⟨left, right, rfl, hleft, hright⟩
  head c hc := by
    rw [List.head?_append_of_ne_nil _ (by simp [dateText])] at hc
    exact isBlank_of_mem_dateText (List.mem_of_mem_head? hc)
  last c hc := by
    rw [List.getLast?_append_of_ne_nil _ (List.cons_ne_nil _ _),
      List.getLast?_cons_of_ne_nil (by simp [clockText])] at hc
    exact isBlank_of_mem_clockText (List.mem_of_getLast? hc)

/-- Whatever spells an instant does not begin or end with white space. -/
theorem Spells.trimmed {n : Int64} {cs : List Char} (h : Spells n cs)
    (hleft : ∀ c ∈ left, Text.isBlank c) (hright : ∀ c ∈ right, Text.isBlank c) :
    Text.Trimmed (left ++ cs ++ right) cs := by
  cases h with
  | seconds => exact Text.trimmed_of_forall (fun _ => Integer.isBlank_of_mem_toText) hleft hright
  | universal => exact trimmed_dateTime _ _ _ _ _ _ hleft hright
  | offset =>
    refine Text.trimmed_of_forall (fun c hc => ?_) hleft hright
    simp only [universalText, List.mem_append, List.mem_cons, List.not_mem_nil, or_false] at hc
    rcases hc with (hc | rfl | hc) | rfl
    · exact isBlank_of_mem_dateText hc
    · decide
    · exact isBlank_of_mem_clockText hc
    · decide

end Trimmed

theorem isWord_eq_false {word : String} {cs : List Char} (h : '-' ∈ cs)
    (hword : '-' ∉ word.toList) : isWord word cs = false := by
  rw [isWord, beq_eq_false_iff_ne]
  exact fun heq => hword (heq ▸ List.mem_map.mpr ⟨'-', h, by decide⟩)

/-- A text with white space around an integer is the number of seconds. -/
theorem instantOf?_integer (now : Instant) {s : String} {n : Int64}
    (h : Text.Trimmed s.toList (Integer.toText n)) :
    instantOf? now (.string s) = instantOf? now (.int n) := by
  simp only [instantOf?, h.trim_eq, Integer.ofText?_toText]

/-- A text that begins with a date is no integer and no word, so it is read, but for the white space
around it. -/
theorem instantOf?_dateText_append (now : Instant) {s : String} {d : Date} {rest : List Char}
    (h : Text.Trimmed s.toList (dateText d ++ rest)) :
    instantOf? now (.string s) = Instant.ofText? (dateText d ++ rest) := by
  obtain ⟨c, cs, heq, hhyphen⟩ := exists_dateText_append d rest
  rw [heq] at h ⊢
  have hmem : '-' ∈ c :: cs := List.mem_cons_of_mem c hhyphen
  have hnow : isWord "now" (c :: cs) = false := isWord_eq_false hmem (by decide)
  have htoday : isWord "today" (c :: cs) = false := isWord_eq_false hmem (by decide)
  simp only [instantOf?, h.trim_eq, integer_ofText?_eq_none hhyphen, hnow, htoday, Bool.or_self,
    Bool.false_eq_true, if_false]

/-- What a value denotes is an instant that a clock shows. -/
theorem valid_of_instantOf? {now i : Instant} {v : Value} (hnow : now.Valid)
    (h : instantOf? now v = some i) : i.Valid := by
  unfold instantOf? at h
  split at h
  · exact Instant.valid_of_ofTimestamp? h
  · dsimp only at h
    split at h
    · exact Instant.valid_of_ofTimestamp? h
    · split at h
      · exact Option.some.inj h ▸ hnow
      · exact Instant.valid_of_ofText? h
  · cases h

/-! ## The filter -/

/-- The pattern of a date. -/
def dateFormat : String := "%Y-%m-%d"

/-- The pattern of date and time. -/
def dateTimeFormat : String := "%Y-%m-%d %H:%M:%S"

/-- The pattern of date and time with the offset of universal time. -/
def offsetFormat : String := "%Y-%m-%dT%H:%M:%SZ"

/-- A call of the filter. -/
def dateCall? (site : Site) (v pattern : Value) : Option (Except RuntimeError Value) :=
  standardCall? "date" site v [pattern]

/-- A date is written by a pattern. -/
def writeDate (format : String) (i : Instant) : Except RuntimeError Value :=
  match Pattern.ofText? format.toList with
  | none => .error (.wrongType (.dateFormat format))
  | some read => .ok (.string (String.ofList (i.format read)))

theorem dateCall?_eq (site : Site) (v pattern : Value) :
    dateCall? site v pattern = some
      (match instantOf? site.settings.now v with
      | none => .error (.wrongType (.notADate v.text))
      | some i => writeDate (datePatternOf site pattern) i) := by
  rw [dateCall?, standardCall?_eq]
  change some (Except.mapError _ _) = _
  simp only [writeDate]
  cases instantOf? site.settings.now v with
  | none => rfl
  | some i =>
    cases Pattern.ofText? (datePatternOf site pattern).toList with
    | none => rfl
    | some read => rfl

/-- What is written by a pattern that is read. -/
theorem writeDate_of_ofText? {format : String} {read : Pattern}
    (h : Pattern.ofText? format.toList = some read) (i : Instant) :
    writeDate format i = .ok (.string (String.ofList (i.format read))) := by
  rw [writeDate, h]

theorem ofText?_dateFormat : Pattern.ofText? dateFormat.toList = some datePattern := by
  decide

theorem ofText?_dateTimeFormat :
    Pattern.ofText? dateTimeFormat.toList = some (datePattern ++ clockPattern ' ') := by
  decide

theorem ofText?_offsetFormat :
    Pattern.ofText? offsetFormat.toList =
      some (datePattern ++ clockPattern 'T' ++ [.text ['Z']]) := by
  decide

section Instants

variable {site : Site} {pattern v w : Value} {i : Instant} {n : Int64}

/-- What is written depends on the instant alone. -/
theorem dateCall?_congr (hv : instantOf? site.settings.now v = some i)
    (hw : instantOf? site.settings.now w = some i) (pattern : Value) :
    dateCall? site v pattern = dateCall? site w pattern := by
  rw [dateCall?_eq, dateCall?_eq, hv, hw]

theorem datePatternOf_string (site : Site) {format : String} (h : format.isEmpty = false) :
    datePatternOf site (.string format) = format := by
  have htext : datePatternOf site (.string format) =
      if format.isEmpty then defaultDatePattern else format := rfl
  rw [htext, h, if_neg (by decide)]

theorem dateCall?_string {format : String} {read : Pattern} (hempty : format.isEmpty = false)
    (hread : Pattern.ofText? format.toList = some read)
    (hv : instantOf? site.settings.now v = some i) :
    dateCall? site v (.string format) = some (.ok (.string (String.ofList (i.format read)))) := by
  rw [dateCall?_eq, hv, datePatternOf_string site hempty]
  exact congrArg some (writeDate_of_ofText? hread i)

/-! ## One instant -/

theorem instantOf?_int (now : Instant) (h : 1 ≤ (dateOf n).year ∧ (dateOf n).year ≤ 9999) :
    instantOf? now (.int n) = some (instantOf n) :=
  Instant.ofTimestamp?_eq ⟨Int.le_trans (by decide) h.1, h.2⟩

theorem valid_instantOf (h : 1 ≤ (dateOf n).year ∧ (dateOf n).year ≤ 9999) :
    (instantOf n).Valid :=
  Instant.valid_of_ofTimestamp? (instantOf?_int Instant.epoch h)

/-- Whatever spells an instant denotes it. -/
theorem Spells.instantOf?_eq (now : Instant) {s : String} {cs : List Char} (hspells : Spells n cs)
    (h : 1 ≤ (dateOf n).year ∧ (dateOf n).year ≤ 9999) (htrimmed : Text.Trimmed s.toList cs) :
    instantOf? now (.string s) = some (instantOf n) := by
  have hvalid := valid_instantOf h
  cases hspells with
  | seconds => rw [instantOf?_integer now htrimmed, instantOf?_int now h]
  | universal =>
    rw [universalText] at htrimmed
    rw [instantOf?_dateText_append now htrimmed, ← universalText, ← spelling_instantOf,
      hvalid.ofText?_spelling, instantOf, Instant.whole_ofSeconds]
  | offset =>
    rw [universalText, List.append_assoc] at htrimmed
    rw [instantOf?_dateText_append now htrimmed, ← List.append_assoc, ← universalText,
      ← spelling_instantOf, hvalid.ofText?_spelling_append ⟨Int.le_trans (by decide) h.1, h.2⟩,
      instantOf, Instant.whole_ofSeconds]

/-- A date is its midnight. -/
theorem instantOf?_dateText (now : Instant) {s : String}
    (h : 1 ≤ (dateOf n).year ∧ (dateOf n).year ≤ 9999) (hmidnight : n.toInt % 86400 = 0)
    (htrimmed : Text.Trimmed s.toList (dateText (dateOf n))) :
    instantOf? now (.string s) = some (instantOf n) := by
  have hinstant : instantOf n = ⟨n.toInt / 86400, 0, 0⟩ := by
    simp [instantOf, Instant.ofSeconds, Instant.daySeconds, hmidnight]
  have hrange : Instant.isDayInRange (n.toInt / 86400) := (valid_instantOf h).inRange
  rw [← List.append_nil (dateText _)] at htrimmed
  rw [instantOf?_dateText_append now htrimmed, List.append_nil, dateOf,
    Instant.ofText?_dateText hrange, hinstant]

/-- Every day of these years begins with a midnight. -/
theorem exists_midnight {d : Date} (hexists : d.Exists) (h : 1 ≤ d.year ∧ d.year ≤ 9999) :
    ∃ n : Int64, dateOf n = d ∧ n.toInt % 86400 = 0 := by
  have hday : Date.ofDay d.number = d := Date.ofDay_eq_iff.mpr ⟨hexists, rfl⟩
  have hyear : yearOf d.number = d.year := congrArg Date.year hday
  have hbounds : -719528 ≤ d.number ∧ d.number < 2932897 := day_bounds (by omega)
  have hn : (Int64.ofInt (d.number * 86400)).toInt = d.number * 86400 :=
    Integer.toInt_ofInt (by unfold Integer.least Integer.greatest; omega)
  refine ⟨Int64.ofInt (d.number * 86400), ?_, ?_⟩
  · rw [dateOf, hn, Int.mul_ediv_cancel _ (by decide), hday]
  · rw [hn, Int.mul_emod_left]

/-! ## Writing again -/

/-- What is written for an instant that a clock shows is written for that text again. -/
theorem dateCall?_spelling (h : i.Valid) :
    dateCall? site (.string (String.ofList (i.spelling ' '))) (.string dateTimeFormat) =
      some (.ok (.string (String.ofList (i.spelling ' ')))) := by
  have htrimmed : Text.Trimmed (String.ofList (i.spelling ' ')).toList (i.spelling ' ') := by
    simpa [String.toList_ofList, Instant.spelling] using
      trimmed_dateTime [] [] (Date.ofDay i.day) i.hour i.minute i.secondOfMinute (by simp) (by simp)
  have hread : instantOf? site.settings.now (.string (String.ofList (i.spelling ' '))) =
      some i.whole :=
    (instantOf?_dateText_append _ htrimmed).trans h.ofText?_spelling
  -- The instant that is read lacks the fraction of the second, which the pattern does not write.
  rw [dateCall?_string (by decide) ofText?_dateTimeFormat hread, h.to_whole.format_spelling,
    Instant.spelling_whole]

/-- Date and time that are written are written for that text again. -/
theorem dateCall?_written (hnow : site.settings.now.Valid)
    (h : dateCall? site v (.string dateTimeFormat) = some (.ok w)) :
    dateCall? site w (.string dateTimeFormat) = some (.ok w) := by
  cases hv : instantOf? site.settings.now v with
  | none =>
    rw [dateCall?_eq, hv] at h
    cases h
  | some i =>
    have hvalid := valid_of_instantOf? hnow hv
    rw [dateCall?_string (by decide) ofText?_dateTimeFormat hv, hvalid.format_spelling] at h
    cases h
    exact dateCall?_spelling hvalid

/-- The spellings are what the filter itself writes for a number of seconds. -/
theorem dateCall?_formats (site : Site) (h : 1 ≤ (dateOf n).year ∧ (dateOf n).year ≤ 9999) :
    dateCall? site (.int n) (.string dateTimeFormat) =
        some (.ok (.string (String.ofList (universalText ' ' n)))) ∧
      dateCall? site (.int n) (.string offsetFormat) =
        some (.ok (.string (String.ofList (universalText 'T' n ++ ['Z'])))) ∧
      dateCall? site (.int n) (.string dateFormat) =
        some (.ok (.string (String.ofList (dateText (dateOf n))))) := by
  have hint := instantOf?_int site.settings.now h
  have hvalid := valid_instantOf h
  refine ⟨?_, ?_, ?_⟩
  · rw [dateCall?_string (by decide) ofText?_dateTimeFormat hint, hvalid.format_spelling,
      spelling_instantOf]
  · rw [dateCall?_string (by decide) ofText?_offsetFormat hint, Instant.format_append,
      hvalid.format_spelling, spelling_instantOf]
    rfl
  · rw [dateCall?_string (by decide) ofText?_dateFormat hint, Instant.format_datePattern]
    rfl

end Instants

/-- **Spellings of one instant are written alike.** The dates are those of the Gregorian calendar,
day by day from the 1st of January 1970. In the years 1 to 9999, a number of seconds, its digits,
its date and time, and its date and time with the offset of universal time give the same under every
pattern, whatever white space is around the texts, and that is a text if the pattern can be read;
these spellings are what the filter itself writes. A date alone gives the same as the number of
seconds of its midnight. Date and time that are written for any value are written for that text
again, the present moment being one that a clock shows. -/
theorem spellings_alike (site : Site) (pattern : Value) :
    (Date.ofDay 0 = ⟨1970, 1, 1⟩ ∧ ∀ day, Date.ofDay (day + 1) = (Date.ofDay day).next) ∧
    (∀ n : Int64, 1 ≤ (dateOf n).year ∧ (dateOf n).year ≤ 9999 →
      (∀ left spelling right, (∀ c ∈ left, Text.isBlank c) → (∀ c ∈ right, Text.isBlank c) →
        Spells n spelling →
        dateCall? site (.string (String.ofList (left ++ spelling ++ right))) pattern =
          dateCall? site (.int n) pattern) ∧
      ((Pattern.ofText? (datePatternOf site pattern).toList).isSome →
        ∃ text, dateCall? site (.int n) pattern = some (.ok (.string text))) ∧
      dateCall? site (.int n) (.string dateTimeFormat) =
        some (.ok (.string (String.ofList (universalText ' ' n)))) ∧
      dateCall? site (.int n) (.string offsetFormat) =
        some (.ok (.string (String.ofList (universalText 'T' n ++ ['Z'])))) ∧
      dateCall? site (.int n) (.string dateFormat) =
        some (.ok (.string (String.ofList (dateText (dateOf n)))))) ∧
    (∀ d : Date, d.Exists → 1 ≤ d.year ∧ d.year ≤ 9999 →
      ∃ n : Int64, dateOf n = d ∧ n.toInt % 86400 = 0 ∧
        ∀ left right, (∀ c ∈ left, Text.isBlank c) → (∀ c ∈ right, Text.isBlank c) →
          dateCall? site (.string (String.ofList (left ++ dateText d ++ right))) pattern =
            dateCall? site (.int n) pattern) ∧
    (site.settings.now.Valid → ∀ v w,
      dateCall? site v (.string dateTimeFormat) = some (.ok w) →
        dateCall? site w (.string dateTimeFormat) = some (.ok w)) := by
  refine ⟨⟨Date.ofDay_zero, Date.ofDay_succ⟩, fun n hyear => ⟨?_, ?_, dateCall?_formats site hyear⟩,
    fun d hexists hyear => ?_, fun hnow _ _ => dateCall?_written hnow⟩
  · intro left spelling right hleft hright hspells
    have htrimmed := hspells.trimmed hleft hright
    rw [← String.toList_ofList (l := left ++ spelling ++ right)] at htrimmed
    exact dateCall?_congr (hspells.instantOf?_eq _ hyear htrimmed) (instantOf?_int _ hyear) pattern
  · intro hread
    obtain ⟨read, hread⟩ := Option.isSome_iff_exists.mp hread
    refine ⟨String.ofList ((instantOf n).format read), ?_⟩
    rw [dateCall?_eq, instantOf?_int _ hyear]
    exact congrArg some (writeDate_of_ofText? hread _)
  · obtain ⟨n, rfl, hmidnight⟩ := exists_midnight hexists hyear
    refine ⟨n, rfl, hmidnight, fun left right hleft hright => ?_⟩
    have htrimmed := Text.trimmed_of_forall
      (fun _ => isBlank_of_mem_dateText (d := dateOf n)) hleft hright
    rw [← String.toList_ofList (l := left ++ _ ++ right)] at htrimmed
    exact dateCall?_congr (instantOf?_dateText _ hyear hmidnight htrimmed)
      (instantOf?_int _ hyear) pattern

/-- A leap day before 1970 in its spellings. -/
theorem spellings_alike_leapDay :
    dateOf (-58015504) = ⟨1968, 2, 29⟩ ∧ Instant.epoch.Valid ∧
      Spells (-58015504) "-58015504".toList ∧ Spells (-58015504) "1968-02-29T12:34:56Z".toList ∧
      dateCall? ⟨Objects.none, {}⟩ (.string " -58015504\n") (.string "%j") =
        dateCall? ⟨Objects.none, {}⟩ (.int (-58015504)) (.string "%j") ∧
      dateCall? ⟨Objects.none, {}⟩ (.string "\t1968-02-29T12:34:56Z ") (.string "%j") =
        dateCall? ⟨Objects.none, {}⟩ (.int (-58015504)) (.string "%j") ∧
      dateCall? ⟨Objects.none, {}⟩ (.string "1968-02-29 12:34:56") (.string dateTimeFormat) =
        some (.ok (.string "1968-02-29 12:34:56")) := by
  have hdate : dateOf (-58015504) = ⟨1968, 2, 29⟩ := by decide
  have hepoch : Instant.epoch.Valid := ⟨by decide, by decide, .inl (by decide)⟩
  have hdigits : Integer.toText (-58015504) = "-58015504".toList := by decide
  have hpadded : String.ofList ([' '] ++ "-58015504".toList ++ ['\n']) = " -58015504\n" := by
    decide
  have huniversal : universalText ' ' (-58015504) = "1968-02-29 12:34:56".toList := by decide
  have hoffset : universalText 'T' (-58015504) ++ ['Z'] = "1968-02-29T12:34:56Z".toList := by decide
  have hsurrounded : String.ofList (['\t'] ++ "1968-02-29T12:34:56Z".toList ++ [' ']) =
      "\t1968-02-29T12:34:56Z " := by decide
  have hblank (c : Char) (hc : Text.isBlank c) : ∀ d ∈ [c], Text.isBlank d := by
    rwa [List.forall_mem_singleton]
  obtain ⟨-, hnumbers, -, hagain⟩ := spellings_alike ⟨Objects.none, {}⟩ (.string "%j")
  obtain ⟨halike, -, hwritten, -⟩ := hnumbers (-58015504) (by rw [hdate]; decide)
  refine ⟨hdate, hepoch, hdigits ▸ .seconds, hoffset ▸ .offset, ?_, ?_, ?_⟩
  · have h := halike [' '] _ ['\n'] (hblank _ (by decide)) (hblank _ (by decide)) .seconds
    rwa [hdigits, hpadded] at h
  · have h := halike ['\t'] _ [' '] (hblank _ (by decide)) (hblank _ (by decide)) .offset
    rwa [hoffset, hsurrounded] at h
  · simpa only [huniversal, String.ofList_toList] using hagain hepoch _ _ hwritten

end Stencil.Filter
