/-!
# Searching, splitting and replacing

Everything rests on `cut?`, which finds the leftmost place of a pattern and gives what stands before
and after it. Splitting and replacing go on behind each place, so places never overlap.

* `cut?_eq_some` — what is found is put together from its parts
* `cut?_isSome_iff` — a cut exists exactly where the pattern is contained
-/

namespace Stencil.Text

/-- What stands before and after the leftmost place where the pattern is found. -/
def cut? (pattern : List Char) : List Char → Option (List Char × List Char)
  | [] => if pattern.isEmpty then some ([], []) else none
  | c :: cs =>
    match pattern.isPrefixOf? (c :: cs) with
    | some after => some ([], after)
    | none => (cut? pattern cs).map fun (before, after) => (c :: before, after)

theorem isPrefixOf?_cons (p c : Char) (ps cs : List Char) :
    (p :: ps).isPrefixOf? (c :: cs) = if p == c then ps.isPrefixOf? cs else none := rfl

theorem isPrefixOf?_eq_some {pattern cs after : List Char}
    (h : pattern.isPrefixOf? cs = some after) : cs = pattern ++ after := by
  induction pattern generalizing cs with
  | nil => exact Option.some.inj h
  | cons p ps ih =>
    cases cs with
    | nil => cases h
    | cons c rest =>
      rw [isPrefixOf?_cons] at h
      split at h
      · rename_i hpc
        have hc : p = c := by simpa using hpc
        rw [hc, ih h]; rfl
      · simp at h

theorem isPrefixOf?_append (pattern after : List Char) :
    pattern.isPrefixOf? (pattern ++ after) = some after := by
  induction pattern with
  | nil => rfl
  | cons p ps ih => simp [isPrefixOf?_cons, ih]

/-- A cut puts the text together again. -/
theorem cut?_eq_some {pattern cs before after : List Char}
    (h : cut? pattern cs = some (before, after)) : cs = before ++ pattern ++ after := by
  induction cs generalizing before with
  | nil =>
    simp only [cut?] at h
    split at h
    · simp at h; simp_all
    · simp at h
  | cons c rest ih =>
    simp only [cut?] at h
    split at h
    · rename_i found hfound
      simp only [Option.some.injEq, Prod.mk.injEq] at h
      obtain ⟨rfl, rfl⟩ := h
      simpa using isPrefixOf?_eq_some hfound
    · simp only [Option.map_eq_some_iff, Prod.mk.injEq, Prod.exists] at h
      obtain ⟨b, a, hb, rfl, rfl⟩ := h
      rw [ih hb]; rfl

/-- There is a cut exactly where the pattern stands somewhere in the text. -/
theorem cut?_isSome_iff {pattern cs : List Char} :
    (cut? pattern cs).isSome ↔ ∃ before after, cs = before ++ pattern ++ after := by
  constructor
  · intro h
    obtain ⟨⟨before, after⟩, hcut⟩ := Option.isSome_iff_exists.mp h
    exact ⟨before, after, cut?_eq_some hcut⟩
  · rintro ⟨before, after, rfl⟩
    induction before with
    | nil =>
      cases hp : pattern ++ after with
      | nil =>
        obtain ⟨rfl, rfl⟩ := List.append_eq_nil_iff.mp hp
        simp [cut?]
      | cons c rest =>
        simp only [List.nil_append, hp, cut?]
        rw [← hp, isPrefixOf?_append]; rfl
    | cons c rest ih =>
      simp only [List.cons_append, List.append_assoc, cut?] at ih ⊢
      split
      · rfl
      · simpa using ih

theorem cut?_length_lt {pattern cs before after : List Char} (hne : pattern ≠ [])
    (h : cut? pattern cs = some (before, after)) : after.length < cs.length := by
  have hlen : 0 < pattern.length := List.length_pos_iff.mpr hne
  rw [cut?_eq_some h]
  simp only [List.length_append]
  omega

/-- Whether the pattern is somewhere in the text. -/
def containsText (pattern cs : List Char) : Bool :=
  (cut? pattern cs).isSome

/-- The parts between the places of a separator, which is not empty. -/
def splitOn (separator : List Char) (cs : List Char) : List (List Char) :=
  if _hne : separator = [] then [cs]
  else
    match _h : cut? separator cs with
    | none => [cs]
    | some (before, after) => before :: splitOn separator after
termination_by cs.length
decreasing_by exact cut?_length_lt _hne _h

/-- The text with every place of a target replaced. An empty target is found nowhere. -/
def replaceAll (target replacement : List Char) (cs : List Char) : List Char :=
  if _hne : target = [] then cs
  else
    match _h : cut? target cs with
    | none => cs
    | some (before, after) => before ++ replacement ++ replaceAll target replacement after
termination_by cs.length
decreasing_by exact cut?_length_lt _hne _h

/-- The text with the first place of a target replaced. An empty target is found nowhere. -/
def replaceFirst (target replacement : List Char) (cs : List Char) : List Char :=
  if target = [] then cs
  else
    match cut? target cs with
    | none => cs
    | some (before, after) => before ++ replacement ++ after

end Stencil.Text
