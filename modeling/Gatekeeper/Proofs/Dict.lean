import Mathlib.Data.List.Nodup
import Gatekeeper.Dict

namespace Gatekeeper

namespace Text

variable {a b c : Text}

theorem isAtMost_iff : isAtMost a b = true ↔ ¬b < a := by
  rw [isAtMost, Bool.not_eq_true', decide_eq_false_iff_not]

theorem isAtMost_of_lt (h : a < b) : isAtMost a b = true :=
  isAtMost_iff.mpr (List.lt_asymm h)

theorem isAtMost_trans (hab : isAtMost a b = true) (hbc : isAtMost b c = true) :
    isAtMost a c = true :=
  isAtMost_iff.mpr (List.not_lt.mpr (List.le_trans (List.not_lt.mp (isAtMost_iff.mp hab))
    (List.not_lt.mp (isAtMost_iff.mp hbc))))

theorem isAtMost_total (a b : Text) : (isAtMost a b || isAtMost b a) = true := by
  rw [Bool.or_eq_true, isAtMost_iff, isAtMost_iff]
  exact Decidable.or_iff_not_imp_left.mpr fun h => List.lt_asymm (Decidable.not_not.mp h)

theorem isAtMost_antisymm (hab : isAtMost a b = true) (hba : isAtMost b a = true) : a = b :=
  List.le_antisymm (List.not_lt.mp (isAtMost_iff.mp hab)) (List.not_lt.mp (isAtMost_iff.mp hba))

end Text

namespace Dict

variable {α : Type} {entries others : List (Text × α)} {d : Dict α} {key : Text} {value : α}

theorem ascending_keys (d : Dict α) : d.keys.Pairwise (· < ·) :=
  List.pairwise_map.mpr d.ascending

theorem nodup_of_ascending {keys : List Text} (h : keys.Pairwise (· < ·)) : keys.Nodup := by
  refine h.imp ?_
  rintro a b hlt rfl
  exact List.lt_irrefl a hlt

theorem nodup_keys (d : Dict α) : d.keys.Nodup :=
  nodup_of_ascending d.ascending_keys

theorem nodup_entries (d : Dict α) : d.entries.Nodup :=
  List.Nodup.of_map Prod.fst d.nodup_keys

theorem mem_keys_iff : key ∈ d.keys ↔ ∃ value, d.get? key = some value := by
  simp [keys, get?_eq_some_iff]

theorem contains_iff_mem_keys : d.contains key = true ↔ key ∈ d.keys := by
  rw [contains, Option.isSome_iff_exists, mem_keys_iff]

@[simp] theorem find?_append (entries others : List (Text × α)) (key : Text) :
    find? key (entries ++ others) = (find? key entries).or (find? key others) := by
  induction entries with
  | nil => rfl
  | cons e rest ih =>
      simp only [List.cons_append, find?]
      split
      · rfl
      · exact ih

theorem find?_eq_map (key : Text) (entries : List (Text × α)) :
    find? key entries = (entries.find? (·.1 = key)).map Prod.snd := by
  induction entries with
  | nil => rfl
  | cons e rest ih =>
      rw [find?, List.find?_cons, ih]
      by_cases hkey : e.1 = key
      · simp [hkey]
      · simp [hkey]

theorem find?_eq_some_iff_of_nodup (hnodup : (entries.map Prod.fst).Nodup) :
    find? key entries = some value ↔ (key, value) ∈ entries := by
  refine ⟨mem_of_find?_eq_some, ?_⟩
  induction entries with
  | nil => exact fun h => absurd h List.not_mem_nil
  | cons e rest ih =>
      obtain ⟨hfirst, hrest⟩ := List.nodup_cons.mp hnodup
      intro h
      rw [find?]
      rcases List.mem_cons.mp h with rfl | hmem
      · exact if_pos rfl
      · have hne : e.1 ≠ key := fun heq => hfirst (heq ▸ List.mem_map_of_mem hmem)
        rw [if_neg hne]
        exact ih hrest hmem

theorem get?_foldl_insert_eq (entries : List (Text × α)) (d : Dict α) (key : Text) :
    (entries.foldl (fun d e => d.insert e.1 e.2) d).get? key =
      (find? key entries.reverse).or (d.get? key) := by
  induction entries generalizing d with
  | nil => rfl
  | cons e rest ih =>
      rw [List.foldl_cons, ih]
      by_cases hkey : e.1 = key <;> simp [find?, hkey]

theorem foldl_insert_eq_override {base top : Dict α} (h : entries.Perm top.entries) :
    entries.foldl (fun d e => d.insert e.1 e.2) base = base.override top := by
  have hreverse : (entries.reverse.map Prod.fst).Nodup :=
    (((List.reverse_perm entries).trans h).map Prod.fst).nodup_iff.mpr top.nodup_keys
  refine ext fun key => ?_
  rw [get?_foldl_insert_eq, get?_override]
  congr 1
  refine Option.ext fun value => ?_
  rw [find?_eq_some_iff_of_nodup hreverse, List.mem_reverse, h.mem_iff, get?_eq_some_iff]

theorem get?_ofList (entries : List (Text × α)) (key : Text) :
    (ofList entries).get? key = find? key entries.reverse := by
  rw [ofList, get?_foldl_insert_eq, get?_empty, Option.or_none]

theorem get?_ofList_eq_some_iff (hnodup : (entries.map Prod.fst).Nodup) :
    (ofList entries).get? key = some value ↔ (key, value) ∈ entries := by
  have hreverse : (entries.reverse.map Prod.fst).Nodup := by
    rw [List.map_reverse]
    exact List.nodup_reverse.mpr hnodup
  rw [get?_ofList, find?_eq_some_iff_of_nodup hreverse, List.mem_reverse]

theorem ofList_eq_of_perm (h : entries.Perm others) (hnodup : (entries.map Prod.fst).Nodup) :
    ofList entries = ofList others := by
  have hnodup' : (others.map Prod.fst).Nodup := (h.map Prod.fst).nodup_iff.mp hnodup
  refine ext fun key => Option.ext fun value => ?_
  rw [get?_ofList_eq_some_iff hnodup, get?_ofList_eq_some_iff hnodup', h.mem_iff]

theorem entries_ofList_perm (hnodup : (entries.map Prod.fst).Nodup) :
    (ofList entries).entries.Perm entries := by
  refine (List.perm_ext_iff_of_nodup (nodup_entries _) (List.Nodup.of_map _ hnodup)).mpr ?_
  rintro ⟨key, value⟩
  rw [← get?_eq_some_iff, get?_ofList_eq_some_iff hnodup]

theorem size_ofList (hnodup : (entries.map Prod.fst).Nodup) :
    (ofList entries).size = entries.length :=
  (entries_ofList_perm hnodup).length_eq

theorem filterMap_get?_keys (d : Dict α) :
    (d.keys.filterMap fun key => (d.get? key).map fun value => (key, value)) = d.entries := by
  rw [keys, List.filterMap_map]
  refine (List.filterMap_congr ?_).trans List.filterMap_some
  rintro ⟨key, value⟩ hmem
  rw [Function.comp_apply, get?_eq_some_iff.mpr hmem, Option.map_some]

theorem mergeSort_eq_of_perm {key : α → Text} {ascending order : List α}
    (h : ascending.Pairwise fun a b => key a < key b) (hperm : order.Perm ascending) :
    order.mergeSort (fun a b => Text.isAtMost (key a) (key b)) = ascending := by
  have hnodup : (ascending.map key).Nodup := nodup_of_ascending (List.pairwise_map.mpr h)
  have hsorted : (order.mergeSort fun a b => Text.isAtMost (key a) (key b)).Pairwise
      fun a b => Text.isAtMost (key a) (key b) = true := by
    refine List.pairwise_mergeSort ?_ ?_ order
    · exact fun a b c hab hbc => Text.isAtMost_trans hab hbc
    · exact fun a b => Text.isAtMost_total (key a) (key b)
  have hsame := (List.mergeSort_perm order fun a b => Text.isAtMost (key a) (key b)).trans hperm
  refine hsame.eq_of_pairwise ?_ hsorted (h.imp Text.isAtMost_of_lt)
  intro a b ha hb hab hba
  exact List.inj_on_of_nodup_map hnodup (hsame.mem_iff.mp ha) hb (Text.isAtMost_antisymm hab hba)

end Dict

end Gatekeeper
