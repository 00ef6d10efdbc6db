import Vignette.Proofs.Bindings
import Vignette.Proofs.Text.Lowercase
import Vignette.Scope

namespace Vignette

/-! Attributes under names in lower case, and what a scope that goes before another one binds. -/

namespace Attributes

theorem distinct_normalizedTexts (attributes : Bindings String) :
    (normalizedTexts attributes).Distinct := Bindings.distinct_ofList _

theorem entry_normalizedTexts {attributes : Bindings String} {entry : String × String}
    (member : entry ∈ (normalizedTexts attributes).entries) :
    Text.isBlankText entry.2 = false ∧ Text.lower entry.1 = entry.1 := by
  obtain ⟨written, kept, rfl⟩ := List.mem_map.mp (Bindings.mem_ofList member)
  exact ⟨by simpa using (List.mem_filter.mp kept).2, Text.lower_lower written.1⟩

theorem normalizedTexts_normalizedTexts (attributes : Bindings String) :
    normalizedTexts (normalizedTexts attributes) = normalizedTexts attributes := by
  have kept : (normalizedTexts attributes).entries.filter (fun entry =>
      !Text.isBlankText entry.2) = (normalizedTexts attributes).entries :=
    List.filter_eq_self.mpr fun entry member => by simp [(entry_normalizedTexts member).1]
  have named : (normalizedTexts attributes).entries.map (fun entry =>
      (Text.lower entry.1, entry.2)) = (normalizedTexts attributes).entries := by
    rw [List.map_congr_left (g := id) fun entry member => by
      rw [(entry_normalizedTexts member).2]; rfl, List.map_id]
  rw [normalizedTexts, normalized, kept, named,
    Bindings.ofList_of_distinct (distinct_normalizedTexts attributes)]

end Attributes

namespace Scope

/-- The attributes of an element go before those in force around it. -/
theorem get?_overlay (outer : Scope) (attributes : Bindings String) (name : String) :
    (outer.overlay attributes).get? name =
      ((Attributes.normalizedTexts attributes).get? name).or (outer.get? name) :=
  Bindings.get?_overlay outer (Attributes.distinct_normalizedTexts attributes) name

end Scope

end Vignette
