import Gatekeeper.Net.Address
import Gatekeeper.Proofs.Text.Pieces
import Gatekeeper.Proofs.Text.Visible

namespace Gatekeeper.IpAddress

theorem isVisible_of_mem_textV4 {bytes : List Nat} :
    ∀ c ∈ textV4 bytes, Text.isVisible c = true := by
  intro c hc
  rcases Text.mem_join hc with hpoint | ⟨piece, hpiece, hc⟩
  · cases List.mem_singleton.mp hpoint
    rfl
  · obtain ⟨byte, -, rfl⟩ := List.mem_map.mp hpiece
    exact Text.isVisible_of_mem_toDigits (by decide) byte c hc

theorem isVisible_of_mem_textGroups {groups : List Nat} :
    ∀ c ∈ textGroups groups, Text.isVisible c = true := by
  intro c hc
  rcases Text.mem_join hc with hcolon | ⟨piece, hpiece, hc⟩
  · cases List.mem_singleton.mp hcolon
    rfl
  · obtain ⟨group, -, rfl⟩ := List.mem_map.mp hpiece
    exact Text.isVisible_of_mem_toDigits (by decide) group c hc

theorem isVisible_of_mem_text {address : IpAddress} :
    ∀ c ∈ address.text, Text.isVisible c = true := by
  intro c hc
  cases address with
  | v4 bytes => exact isVisible_of_mem_textV4 c hc
  | v6 groups =>
      delta text at hc
      dsimp only at hc
      split at hc
      · have hlead : "::ffff:".toList.all Text.isVisible = true := by
          decide
        rcases List.mem_append.mp hc with hc | hc
        · exact List.all_eq_true.mp hlead c hc
        · exact isVisible_of_mem_textV4 c hc
      · split at hc
        · have hcolons : [':', ':'].all Text.isVisible = true := by
            decide
          rcases List.mem_append.mp hc with hc | hc
          · rcases List.mem_append.mp hc with hc | hc
            · exact isVisible_of_mem_textGroups c hc
            · exact List.all_eq_true.mp hcolons c hc
          · exact isVisible_of_mem_textGroups c hc
        · exact isVisible_of_mem_textGroups c hc

end Gatekeeper.IpAddress
