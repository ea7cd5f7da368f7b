import Stencil.Proofs.Filter.Calls
import Stencil.Proofs.Text.Escaped
import Stencil.Proofs.Text.PercentCoding
import Stencil.Proofs.Text.Pieces

/-!
# Escaping and encoding texts

What the filters make of a text that stand it in a page or in an address.

* `escaping_safe` — escaped texts are safe, and are escaped once
* `references_read` — which references are read before a text is escaped
* `encoding_read` — encoded texts are made of a few characters and are read back
-/

namespace Stencil.Filter

open Text (Escaped PercentEncoded Reference Scanned denoted)

/-! ## Pages -/

theorem standardCall?_escape (site : Site) (s : String) :
    standardCall? "escape" site (.string s) [] =
      some (.ok (.string (String.ofList (Text.escape s.toList)))) :=
  standardCall?_text rfl site s

theorem standardCall?_escapeOnce (site : Site) (s : String) :
    standardCall? "escape_once" site (.string s) [] =
      some (.ok (.string (String.ofList (Text.escapeOnce s.toList)))) :=
  standardCall?_text rfl site s

/-- **Escaping is safe and is done once.** Every text can be escaped, with regard to what has been
escaped before or without. What comes of it has none of the characters `<`, `>`, `"` and `'`, and
each `&` begins one of the five references that are written; with its references read it is the text
again, or the text with its own references read; and escaping it with regard to what has been
escaped changes nothing. -/
theorem escaping_safe (site : Site) (s : String) :
    ∃ escaped once : String,
      standardCall? "escape" site (.string s) [] = some (.ok (.string escaped)) ∧
      standardCall? "escape_once" site (.string s) [] = some (.ok (.string once)) ∧
      (Escaped escaped.toList ∧ Text.unescape escaped.toList = s.toList) ∧
      (Escaped once.toList ∧ Text.unescape once.toList = Text.unescape s.toList) ∧
      standardCall? "escape_once" site (.string escaped) [] = some (.ok (.string escaped)) ∧
      standardCall? "escape_once" site (.string once) [] = some (.ok (.string once)) := by
  have hagain (cs : List Char) :
      standardCall? "escape_once" site (.string (String.ofList (Text.escape cs))) [] =
        some (.ok (.string (String.ofList (Text.escape cs)))) := by
    rw [standardCall?_escapeOnce, String.toList_ofList, Text.escapeOnce_escape]
  have hsafe (cs : List Char) : Escaped (String.ofList (Text.escape cs)).toList ∧
      Text.unescape (String.ofList (Text.escape cs)).toList = cs := by
    rw [String.toList_ofList]
    exact ⟨Text.escaped_escape cs, Text.unescape_escape cs⟩
  exact ⟨_, _, standardCall?_escape site s, standardCall?_escapeOnce site s, hsafe _, hsafe _,
    hagain _, hagain _⟩

/-- What is escaped tells the text that it comes from. -/
theorem standardCall?_escape_inj {site : Site} {s t : String} :
    standardCall? "escape" site (.string s) [] = standardCall? "escape" site (.string t) [] ↔
      s = t := by
  rw [standardCall?_escape, standardCall?_escape]
  constructor
  · intro h
    simp only [Option.some.injEq, Except.ok.injEq, Value.string.injEq, String.ofList_inj] at h
    exact String.toList_inj.mp (Text.escape_injective h)
  · rintro rfl
    rfl

/-- A text is escaped with what its references denote. -/
theorem standardCall?_escapeOnce_eq {site : Site} {s : String}
    {pieces : List (List Char × Char)}
    (h : Scanned (Reference Text.readSigns) s.toList pieces) :
    standardCall? "escape_once" site (.string s) [] =
      standardCall? "escape" site (.string (String.ofList (denoted pieces))) [] := by
  obtain ⟨pieces', hpieces', hdenoted⟩ := Text.scanned_unescape s.toList
  obtain rfl := h.unique Text.distinct_reference hpieces'
  rw [standardCall?_escapeOnce, standardCall?_escape, String.toList_ofList, hdenoted]
  rfl

/-- **Which references are read before a text is escaped.** A text is read from the left in one way,
be it that numbers may have a plus sign or that they have none. What is escaped is the text in which
just the references are replaced that are read with plus signs; and that is the text in which just
the references without signs are replaced if, and only if, no reference that is read has a sign. -/
theorem references_read (site : Site) (s : String) :
    ∃ pieces genuine,
      (∀ other, Scanned (Reference Text.readSigns) s.toList other ↔ other = pieces) ∧
      (∀ other, Scanned (Reference Text.unsigned) s.toList other ↔ other = genuine) ∧
      standardCall? "escape_once" site (.string s) [] =
        standardCall? "escape" site (.string (String.ofList (denoted pieces))) [] ∧
      (standardCall? "escape_once" site (.string s) [] =
          standardCall? "escape" site (.string (String.ofList (denoted genuine))) [] ↔
        ∀ p ∈ pieces, Reference Text.readSigns p.1 p.2 → Reference Text.unsigned p.1 p.2) := by
  obtain ⟨pieces, hpieces⟩ := Text.exists_scanned Text.distinct_reference s.toList
  obtain ⟨genuine, hgenuine⟩ := Text.exists_scanned Text.distinct_unsigned s.toList
  have honce : standardCall? "escape_once" site (.string s) [] = _ :=
    standardCall?_escapeOnce_eq hpieces
  refine ⟨pieces, genuine, fun other => ⟨fun h => h.unique Text.distinct_reference hpieces, ?_⟩,
    fun other => ⟨fun h => h.unique Text.distinct_unsigned hgenuine, ?_⟩, honce, ?_⟩
  · rintro rfl
    exact hpieces
  · rintro rfl
    exact hgenuine
  · rw [honce, standardCall?_escape_inj, String.ofList_inj]
    exact hpieces.denoted_eq_iff hgenuine

theorem reference_plusSign : Reference Text.readSigns "&#+38;".toList '&' :=
  ⟨"#+38".toList, rfl, by decide, Text.namedChar?_eq_some_iff.mp (by rfl)⟩

theorem not_reference_plusSign (c : Char) : ¬ Reference Text.unsigned "&#+38;".toList c := by
  rintro ⟨name, heq, -, hnamed⟩
  have hname : "#+38".toList ++ [';'] = name ++ [';'] := (List.cons_eq_cons.mp heq).2
  rw [← List.append_cancel_right hname] at hnamed
  exact Text.Named.not_plus _ c hnamed

/-- A number with a plus sign is no reference, but it is read as one. -/
theorem plusSign_read :
    standardCall? "escape_once" ⟨.none, {}⟩ (.string "&#+38;") [] =
        some (.ok (.string "&amp;")) ∧
      ¬ ∀ (site : Site) (s : String) (genuine : List (List Char × Char)),
        Scanned (Reference Text.unsigned) s.toList genuine →
          standardCall? "escape_once" site (.string s) [] =
            standardCall? "escape" site (.string (String.ofList (denoted genuine))) [] := by
  refine ⟨by rw [standardCall?_escapeOnce]; rfl, fun h => ?_⟩
  obtain ⟨genuine, hgenuine⟩ := Text.exists_scanned Text.distinct_unsigned "&#+38;".toList
  have hpieces : Scanned (Reference Text.readSigns) "&#+38;".toList [("&#+38;".toList, '&')] :=
    .reference reference_plusSign .nil
  have heq := h ⟨.none, {}⟩ "&#+38;" genuine hgenuine
  rw [standardCall?_escapeOnce_eq hpieces, standardCall?_escape_inj, String.ofList_inj] at heq
  exact not_reference_plusSign '&'
    ((hpieces.denoted_eq_iff hgenuine).mp heq _ List.mem_cons_self reference_plusSign)

/-! ## Addresses -/

/-- **Encoded texts are read back.** Every text can be encoded. What comes of it is made of letters
and digits of ASCII, of a few other characters and of `%` with two capital hexadecimal digits; and
decoding it gives the text again. -/
theorem encoding_read (site : Site) (s : String) :
    ∃ encoded : String,
      standardCall? "url_encode" site (.string s) [] = some (.ok (.string encoded)) ∧
      PercentEncoded encoded.toList ∧
      standardCall? "url_decode" site (.string encoded) [] = some (.ok (.string s)) := by
  refine ⟨_, standardCall?_text rfl site s, ?_, ?_⟩
  · rw [String.toList_ofList]
    exact Text.percentEncoded_percentEncode _
  · rw [standardCall?_text rfl, String.toList_ofList, Text.percentDecode_percentEncode,
      String.ofList_toList]

end Stencil.Filter
