import Gatekeeper.Uri.Reader

namespace Gatekeeper

namespace Uri

/-- The text can stand behind the question mark of a URI. -/
def fitsQuery : Text → Bool
  | [] => true
  | c :: rest => c == '#' || isQueryChar c && fitsQuery rest

/-- The text can stand behind the authority of a URI, if it starts where the authority ends. -/
def fitsTarget : Text → Bool
  | [] => true
  | c :: rest => if c = '?' then fitsQuery rest else c == '#' || isPathChar c && fitsTarget rest

variable {t front back : Text}

theorem all_takeWhile_isQueryChar :
    (t.takeWhile (· != '#')).all isQueryChar = fitsQuery t := by
  induction t with
  | nil => rfl
  | cons c rest ih =>
      rw [fitsQuery, List.takeWhile_cons]
      by_cases hc : c = '#'
      · simp [hc]
      · simp [hc, ih]

/-- The path in front of a query and a fragment. -/
def targetPath (t : Text) : Text :=
  t.takeWhile fun c => c != '?' && c != '#'

def targetQuery? (t : Text) : Option Text :=
  match t.dropWhile fun c => c != '?' && c != '#' with
  | '?' :: rest => some (rest.takeWhile (· != '#'))
  | _ => none

theorem targetQuery?_of_dropWhile {query : Text}
    (h : (t.dropWhile fun c => c != '?' && c != '#') = '?' :: query) :
    targetQuery? t = some (query.takeWhile (· != '#')) := by
  rw [targetQuery?, h]
  rfl

theorem targetQuery?_cons (h : '#' ∉ t) : targetQuery? ('?' :: t) = some t := by
  have hall : ∀ c ∈ t, (c != '#') = true := fun c hc =>
    bne_iff_ne.mpr (ne_of_mem_of_not_mem hc h)
  have hkept : (t ++ []).takeWhile (· != '#') = t ++ [] := List.takeWhile_append_of_pos hall
  rw [List.append_nil] at hkept
  rw [targetQuery?_of_dropWhile rfl, hkept]

theorem targetQuery?_eq_none
    (h : ∀ query, (t.dropWhile fun c => c != '?' && c != '#') ≠ '?' :: query) :
    targetQuery? t = none := by
  rw [targetQuery?]
  split
  · rename_i query hquery
    exact absurd hquery (h query)
  · rfl

theorem readTarget_eq_ok_iff_all {parts : Text × Option Text} : readTarget t = .ok parts ↔
    ((targetPath t).all isPathChar = true ∧
      ∀ query, (t.dropWhile fun c => c != '?' && c != '#') = '?' :: query →
        fitsQuery query = true) ∧ (targetPath t, targetQuery? t) = parts := by
  rw [readTarget, ← targetPath]
  by_cases hpath : (targetPath t).all isPathChar = true
  · rw [if_pos hpath, hpath, eq_self_iff_true, true_and]
    split
    · rename_i query hquery
      rw [targetQuery?_of_dropWhile hquery]
      simp only [all_takeWhile_isQueryChar]
      by_cases hfits : fitsQuery query = true <;> simp [hfits, hquery]
    · rename_i hnone
      rw [targetQuery?_eq_none hnone, Except.ok.injEq]
      exact (and_iff_right fun query hquery => absurd hquery (hnone query)).symm
  · simp [hpath]

theorem fitsTarget_iff_all : fitsTarget t = true ↔ (targetPath t).all isPathChar = true ∧
    ∀ query, (t.dropWhile fun c => c != '?' && c != '#') = '?' :: query →
      fitsQuery query = true := by
  induction t with
  | nil => simp [fitsTarget, targetPath]
  | cons c rest ih =>
      rw [targetPath] at ih
      rw [fitsTarget, targetPath, List.takeWhile_cons, List.dropWhile_cons]
      by_cases hquery : c = '?'
      · simp [hquery]
      · by_cases hfragment : c = '#'
        · simp [hfragment]
        · simp [hquery, hfragment, ih, and_assoc]

theorem readTarget_eq_ok_iff {parts : Text × Option Text} :
    readTarget t = .ok parts ↔ fitsTarget t = true ∧ (targetPath t, targetQuery? t) = parts := by
  rw [readTarget_eq_ok_iff_all, fitsTarget_iff_all]

section

variable (hquery : '?' ∉ front) (hfragment : '#' ∉ front)

include hquery hfragment

theorem forall_mem_of_not_mem : ∀ c ∈ front, (c != '?' && c != '#') = true := by
  intro c hc
  rw [Bool.and_eq_true, bne_iff_ne, bne_iff_ne]
  exact ⟨ne_of_mem_of_not_mem hc hquery, ne_of_mem_of_not_mem hc hfragment⟩

theorem targetPath_append : targetPath (front ++ back) = front ++ targetPath back :=
  List.takeWhile_append_of_pos (forall_mem_of_not_mem hquery hfragment)

theorem targetPath_of_not_mem : targetPath front = front := by
  have happend : targetPath (front ++ []) = front ++ targetPath [] :=
    targetPath_append hquery hfragment
  have hnil : targetPath [] = [] := rfl
  rwa [hnil, List.append_nil] at happend

theorem targetQuery?_append : targetQuery? (front ++ back) = targetQuery? back := by
  rw [targetQuery?, List.dropWhile_append_of_pos (forall_mem_of_not_mem hquery hfragment)]
  rfl

end

theorem targetPath_append_of_mem (h : '?' ∈ front ∨ '#' ∈ front) :
    targetPath (front ++ back) = targetPath front := by
  induction front with
  | nil => simp at h
  | cons c rest ih =>
      rw [targetPath] at ih
      rw [List.cons_append, targetPath, List.takeWhile_cons, targetPath, List.takeWhile_cons]
      split
      · rename_i hc
        rw [Bool.and_eq_true, bne_iff_ne, bne_iff_ne] at hc
        rw [ih (h.imp (List.mem_of_ne_of_mem hc.1.symm) (List.mem_of_ne_of_mem hc.2.symm)),
          targetPath]
      · rfl

theorem fitsQuery_append :
    fitsQuery (front ++ back) = (fitsQuery front && (front.contains '#' || fitsQuery back)) := by
  induction front with
  | nil => simp [fitsQuery]
  | cons c rest ih =>
      rw [List.cons_append, fitsQuery, fitsQuery, ih]
      by_cases hfragment : c = '#'
      · simp [hfragment]
      · have hmark : (c == '#') = false := beq_eq_false_iff_ne.mpr hfragment
        simp [hmark, Ne.symm hfragment, Bool.and_assoc]

theorem fitsTarget_append :
    fitsTarget (front ++ back) = (fitsTarget front && (front.contains '#' ||
      if front.contains '?' then fitsQuery back else fitsTarget back)) := by
  induction front with
  | nil => simp [fitsTarget]
  | cons c rest ih =>
      rw [List.cons_append, fitsTarget, fitsTarget]
      by_cases hquery : c = '?'
      · simp [hquery, fitsQuery_append]
      · by_cases hfragment : c = '#'
        · simp [hfragment]
        · have hmark : (c == '#') = false := beq_eq_false_iff_ne.mpr hfragment
          simp [hquery, hmark, Ne.symm hquery, Ne.symm hfragment, ih, Bool.and_assoc]

theorem fitsQuery_append_of_fits (hfront : fitsQuery front = true)
    (hback : fitsQuery back = true) : fitsQuery (front ++ back) = true := by
  rw [fitsQuery_append, hfront, hback, Bool.or_true, Bool.and_true]

theorem fitsTarget_append_of_fits (hfront : fitsTarget front = true)
    (htarget : fitsTarget back = true) (hquery : fitsQuery back = true) :
    fitsTarget (front ++ back) = true := by
  rw [fitsTarget_append, hfront, htarget, hquery, ite_self, Bool.or_true, Bool.and_true]

theorem fitsQuery_of_forall (h : ∀ c ∈ t, isQueryChar c = true) : fitsQuery t = true := by
  induction t with
  | nil => rfl
  | cons c rest ih =>
      rw [fitsQuery, h c List.mem_cons_self, ih fun c hc => h c (List.mem_cons_of_mem _ hc)]
      exact Bool.or_true _

theorem fitsTarget_targetPath (h : fitsTarget t = true) : fitsTarget (targetPath t) = true := by
  rw [← List.takeWhile_append_dropWhile (p := fun c => c != '?' && c != '#') (l := t),
    fitsTarget_append, Bool.and_eq_true] at h
  exact h.1

theorem not_mem_targetPath {mark : Char} (h : mark = '?' ∨ mark = '#') : mark ∉ targetPath t := by
  intro hmem
  have hall := List.all_eq_true.mp (List.all_takeWhile (l := t)) mark hmem
  rcases h with rfl | rfl <;> revert hall <;> decide

theorem fragment_not_mem_targetQuery? {query : Text} (h : targetQuery? t = some query) :
    '#' ∉ query := by
  rw [targetQuery?] at h
  split at h
  · rename_i rest hrest
    cases h
    intro hmem
    have hall := List.all_eq_true.mp (List.all_takeWhile (l := rest)) '#' hmem
    revert hall
    decide
  · cases h

theorem fitsQuery_targetQuery? {query : Text} (hfits : fitsTarget t = true)
    (h : targetQuery? t = some query) : fitsQuery query = true := by
  rw [targetQuery?] at h
  split at h
  · rename_i rest hrest
    cases h
    have hquery := (fitsTarget_iff_all.mp hfits).2 rest hrest
    rw [← all_takeWhile_isQueryChar] at hquery
    exact fitsQuery_of_forall (List.all_eq_true.mp hquery)
  · cases h

section

variable {u : Uri}

@[simp] theorem targetPath_querySuffix : targetPath u.querySuffix = [] := by
  rw [querySuffix]
  split <;> rfl

theorem targetQuery?_querySuffix (h : ∀ query, u.query = some query → '#' ∉ query) :
    targetQuery? u.querySuffix = u.query := by
  rw [querySuffix]
  split
  · rename_i query hquery
    rw [targetQuery?_cons (h query hquery), hquery]
  · rename_i hnone
    exact hnone.symm

theorem fitsTarget_querySuffix (h : ∀ query, u.query = some query → fitsQuery query = true) :
    fitsTarget u.querySuffix = true := by
  rw [querySuffix]
  split
  · rename_i query hquery
    rw [fitsTarget, if_pos rfl, h query hquery]
  · rfl

theorem readTarget_written (h : readTarget t = .ok (u.writtenPath, u.query)) :
    readTarget (u.writtenPath ++ u.querySuffix) = .ok (u.writtenPath, u.query) := by
  obtain ⟨hfits, hparts⟩ := readTarget_eq_ok_iff.mp h
  obtain ⟨hpath, hquery⟩ := Prod.mk.inj hparts
  have hmark : '?' ∉ u.writtenPath := hpath ▸ not_mem_targetPath (.inl rfl)
  have hfragment : '#' ∉ u.writtenPath := hpath ▸ not_mem_targetPath (.inr rfl)
  refine readTarget_eq_ok_iff.mpr ⟨?_, Prod.ext ?_ ?_⟩
  · have hfront : fitsTarget u.writtenPath = true := hpath ▸ fitsTarget_targetPath hfits
    have hback : fitsTarget u.querySuffix = true := fitsTarget_querySuffix fun query hsome =>
      fitsQuery_targetQuery? hfits (hquery.trans hsome)
    rw [fitsTarget_append, hfront, if_neg (by simpa using hmark), hback, Bool.or_true,
      Bool.and_true]
  · rw [targetPath_append hmark hfragment, targetPath_querySuffix, List.append_nil]
  · rw [targetQuery?_append hmark hfragment]
    exact targetQuery?_querySuffix fun query hsome =>
      fragment_not_mem_targetQuery? (hquery.trans hsome)

end

end Uri

end Gatekeeper
