import Clickstream.Proofs.Filter.Admission
import Clickstream.Proofs.Json.RoundTrip

/-!
# Filters on the wire

Filters are sent as the JSON text of their objects, as the bytes of this text, or as decoded
objects.  Whichever way is taken, admitted filters arrive as they were, whatever characters their
values are made of (`readRequest_written`).
-/

namespace Clickstream.Filter

open Json (IsJson ReadsAs)

theorem isJson_toValue (filter : Filter) : IsJson filter.toValue := by
  have hvalues : IsJson (.list (filter.values.map .text)) :=
    .list (List.forall_mem_map.mpr fun value _ => .text value)
  have hnames : ["parameter", "type", "value"].Nodup := by decide
  refine .object hnames ?_
  simp only [List.forall_mem_cons]
  exact ⟨.text _, .text _, hvalues, nofun⟩

/-- The objects of filters have a text that is read as their list. -/
theorem exists_write_toValue (filters : List Filter) :
    ∃ t, Json.write (.list (filters.map toValue)) = .ok t ∧
      ReadsAs t (.list (filters.map toValue)) :=
  (IsJson.list (List.forall_mem_map.mpr fun filter _ => isJson_toValue filter)).exists_write

section

variable {t : String} {v : Value} {filters : List Filter}

theorem readRequest_text (ht : ReadsAs t v) (hv : readList v = .ok filters) :
    readRequest (.text t) = .ok filters := by
  unfold readRequest
  split
  · next heq => cases heq
  · next heq =>
    cases heq
    obtain ⟨c, cs, hcs, -⟩ := ht.begins
    cases hcs
  · next heq => cases heq
  · next heq =>
    cases heq
    rw [ht.readText_eq]
    exact hv
  · next heq => cases heq
  · next _ _ _ htext _ => exact absurd rfl (htext t)

theorem readRequest_bytes (ht : ReadsAs t v) (hv : readList v = .ok filters) :
    readRequest (.bytes t.toUTF8.data.toList) = .ok filters := by
  have hdecode := Text.decode_toUTF8 ht.isPlain
  generalize t.toUTF8.data.toList = bytes at hdecode
  unfold readRequest
  split
  · next heq => cases heq
  · next heq => cases heq
  · next heq =>
    cases heq
    obtain ⟨c, cs, hcs, -⟩ := ht.begins
    rw [hcs] at hdecode
    cases hdecode
  · next heq => cases heq
  · next heq =>
    cases heq
    rw [hdecode]
    show decoded (Json.readChars t.toList) >>= readList = _
    rw [ht.readChars_eq]
    exact hv
  · next _ _ _ _ hbytes => exact absurd rfl (hbytes bytes)

end

/-- Filters survive the wire.  If every filter has a known parameter and at least one value, the
objects of the filters have a JSON text, and the same filters in the same order are read from the
text, from its bytes in UTF-8 and from the decoded list. -/
theorem readRequest_written {filters : List Filter} (h : ∀ filter ∈ filters, filter.IsAdmitted) :
    ∃ t, Json.write (.list (filters.map toValue)) = .ok t ∧
      readRequest (.text t) = .ok filters ∧
      readRequest (.bytes t.toUTF8.data.toList) = .ok filters ∧
      readRequest (.list (filters.map toValue)) = .ok filters := by
  obtain ⟨t, hwrite, ht⟩ := exists_write_toValue filters
  have hread : readList (.list (filters.map toValue)) = .ok filters := readAll_map_toValue h
  exact ⟨t, hwrite, readRequest_text ht hread, readRequest_bytes ht hread, hread⟩

/-- Filters with quotation marks, a backslash, a line break and characters that take one escape or
two. -/
def escaped : List Filter :=
  [⟨"url_param:q", .contains, ["say \"a\\b\"\n", "größe"]⟩, ⟨"page_title", .equals, ["𝒳", ""]⟩]

theorem readRequest_written_escaped : ∃ t,
    Json.write (.list (escaped.map toValue)) = .ok t ∧
      readRequest (.text t) = .ok escaped ∧
      readRequest (.bytes t.toUTF8.data.toList) = .ok escaped ∧
      readRequest (.list (escaped.map toValue)) = .ok escaped := by
  refine readRequest_written fun filter hfilter => ?_
  rcases List.mem_pair.mp hfilter with rfl | rfl
  · exact ⟨by decide, List.cons_ne_nil _ _⟩
  · exact ⟨by decide, List.cons_ne_nil _ _⟩

end Clickstream.Filter
