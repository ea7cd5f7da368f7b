import Stencil.Text.Search

/-!
# Removing tags

A tag is a `<`, at least one character other than `>`, and a `>`.
-/

namespace Stencil.Text

/-- What follows a tag, read behind its `<`. -/
def afterTag? (cs : List Char) : Option (List Char) :=
  match cut? ['>'] cs with
  | some (_ :: _, after) => some after
  | _ => none

theorem afterTag?_length_lt {cs after : List Char} (h : afterTag? cs = some after) :
    after.length < cs.length := by
  simp only [afterTag?] at h
  split at h
  · rename_i hcut
    simp only [Option.some.injEq] at h
    exact h ▸ cut?_length_lt (by simp) hcut
  · simp at h

/-- The text without its tags. A `<` that begins no tag stays. -/
def stripTags : List Char → List Char
  | [] => []
  | c :: rest =>
    if c = '<' then
      match _h : afterTag? rest with
      | some after => stripTags after
      | none => c :: stripTags rest
    else c :: stripTags rest
termination_by cs => cs.length
decreasing_by
  · have := afterTag?_length_lt _h
    simp only [List.length_cons]
    omega
  · simp
  · simp

end Stencil.Text
