import Stencil.Proofs.Filter.Calls
import Stencil.Proofs.Text.Tags

/-!
# Cutting texts

What the filters leave that cut a text at what stands in it: at a separator, or at tags.

* `split_join_replace` — splitting, joining and replacing cut at the same places
* `tags_removed` — no tag is left, and all else is
-/

namespace Stencil.Filter

open Text (Divided IsTag)

/-! ## Separators -/

/-- An array of texts. -/
def texts (parts : List String) : Value :=
  .array (parts.map .string)

theorem standardCall?_split (site : Site) (s t : String) :
    standardCall? "split" site (.string s) [.string t] =
      some (.ok (texts ((parts t.toList s.toList).map String.ofList))) := by
  rw [standardCall?_eq, texts, List.map_map]
  rfl

theorem standardCall?_join (site : Site) (parts : List String) (t : String) :
    standardCall? "join" site (texts parts) [.string t] =
      some (.ok (.string (String.ofList (t.toList.intercalate (parts.map String.toList))))) := by
  have htexts : (parts.map Value.string).map site.text = parts.map String.toList := by
    rw [List.map_map]
    rfl
  rw [standardCall?_eq, ← htexts]
  rfl

theorem standardCall?_replace (site : Site) (s t r : String) :
    standardCall? "replace" site (.string s) [.string t, .string r] =
      some (.ok (.string (String.ofList (Text.replaceAll t.toList r.toList s.toList)))) := by
  rw [standardCall?_eq]
  rfl

/-- An empty separator divides a text into its characters. -/
theorem standardCall?_split_empty (site : Site) (s : String) :
    standardCall? "split" site (.string s) [.string ""] =
      some (.ok (texts (s.toList.map String.singleton))) := by
  have hcharacters : (parts "".toList s.toList).map String.ofList =
      s.toList.map String.singleton := by
    rw [parts, if_pos (by rfl), List.map_map]
    exact List.map_congr_left fun c _ => String.singleton_eq_ofList.symm
  rw [standardCall?_split, hcharacters]

theorem standardCall?_join_characters (site : Site) (s : String) :
    standardCall? "join" site (texts (s.toList.map String.singleton)) [.string ""] =
      some (.ok (.string s)) := by
  have hcharacters : (s.toList.map String.singleton).map String.toList = s.toList.map ([·]) := by
    simp [Function.comp_def]
  rw [standardCall?_join, hcharacters, String.toList_empty, Text.intercalate_characters,
    String.ofList_toList]

/-- **Splitting, joining and replacing cut at the same places.** A text is split at the places of a
separator that is not empty, in the only way in which it is divided from the left, and no part has
the separator in it; joining the parts with another text is replacing the separator by that, and
joining them with the separator gives the text again. With an empty separator the parts are the
characters of the text, and joining them with nothing gives the text again. -/
theorem split_join_replace (site : Site) (s t : String) :
    ∃ parts : List String,
      standardCall? "split" site (.string s) [.string t] = some (.ok (texts parts)) ∧
      (t ≠ "" →
        (∀ other, Divided (· = t.toList) s.toList other ↔ other = parts.map String.toList) ∧
        (∀ part ∈ parts, ¬ t.toList <:+: part.toList) ∧
        (∀ r : String, ∃ joined : String,
          standardCall? "join" site (texts parts) [.string r] = some (.ok (.string joined)) ∧
          standardCall? "replace" site (.string s) [.string t, .string r] =
            some (.ok (.string joined))) ∧
        standardCall? "join" site (texts parts) [.string t] = some (.ok (.string s))) ∧
      (t = "" →
        parts = s.toList.map String.singleton ∧
        standardCall? "join" site (texts parts) [.string ""] = some (.ok (.string s))) := by
  by_cases hempty : t = ""
  · subst hempty
    exact ⟨_, standardCall?_split_empty site s, fun hne => absurd rfl hne,
      fun _ => ⟨rfl, standardCall?_join_characters site s⟩⟩
  have hpattern : t.toList ≠ [] := mt String.toList_eq_nil_iff.mp hempty
  have hdivided := Text.divided_splitOn hpattern s.toList
  have hparts : ((parts t.toList s.toList).map String.ofList).map String.toList =
      Text.splitOn t.toList s.toList := by
    simp [parts, hpattern, Function.comp_def]
  refine ⟨_, standardCall?_split site s t, fun _ => ⟨?_, ?_,
    fun r => ⟨_, standardCall?_join .., ?_⟩, ?_⟩, fun h => absurd h hempty⟩
  · rw [hparts]
    exact hdivided.iff_eq (Text.unambiguous_eq _)
  · intro part hpart
    have hmem : part.toList ∈ Text.splitOn t.toList s.toList := hparts ▸ List.mem_map_of_mem hpart
    exact hdivided.not_contained (by simpa using hpattern) _ hmem _ rfl
  · rw [standardCall?_replace, hparts, Text.replaceAll_eq_intercalate hpattern]
  · rw [standardCall?_join, hparts, hdivided.intercalate, String.ofList_toList]

/-! ## Tags -/

/-- **Tags are removed and nothing else.** A text is divided in one way at the tags in it, which are
left out; no tag is left, be it one that was put together from what stood around another; and
removing tags again changes nothing. -/
theorem tags_removed (site : Site) (s : String) :
    ∃ (stripped : String) (parts : List (List Char)),
      standardCall? "strip_html" site (.string s) [] = some (.ok (.string stripped)) ∧
      (∀ other, Divided IsTag s.toList other ↔ other = parts) ∧
      stripped.toList = parts.flatten ∧
      (∀ tag, IsTag tag → ¬ tag <:+: stripped.toList) ∧
      standardCall? "strip_html" site (.string stripped) [] =
        some (.ok (.string stripped)) := by
  obtain ⟨parts, hparts, hflatten⟩ := Text.exists_divided_stripTags s.toList
  have hleft := Text.not_contained_stripTags s.toList
  refine ⟨_, parts, standardCall?_text rfl site s, hparts.iff_eq Text.unambiguous_isTag, ?_, ?_, ?_⟩
  · rw [String.toList_ofList, hflatten]
  · rwa [String.toList_ofList]
  · rw [standardCall?_text rfl, String.toList_ofList, Text.stripTags_eq_self hleft]

end Stencil.Filter
