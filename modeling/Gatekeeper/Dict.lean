import Gatekeeper.Text.Basic

/-!
# Dictionaries

A finite map with texts as keys, kept as a list in strictly ascending order of the keys. Two
dictionaries that answer every look-up alike are therefore equal (`ext`), whatever the order in
which their entries were put in. `get?_insert` and `get?_override` say what the two ways of building
one do to the look-up.
-/

namespace Gatekeeper

namespace Dict

variable {α : Type}

/-- The keys of the entries ascend strictly. -/
def Ascending (entries : List (Text × α)) : Prop :=
  entries.Pairwise fun a b => a.1 < b.1

/-- The value of the first entry with the key. -/
def find? (key : Text) : List (Text × α) → Option α
  | [] => none
  | (k, v) :: rest => if k = key then some v else find? key rest

/-- Puts an entry in its place, instead of one with the same key. -/
def place (key : Text) (value : α) : List (Text × α) → List (Text × α)
  | [] => [(key, value)]
  | (k, v) :: rest =>
    if key < k then (key, value) :: (k, v) :: rest
    else if key = k then (key, value) :: rest
    else (k, v) :: place key value rest

theorem mem_place {key : Text} {value : α} {entries : List (Text × α)} {e : Text × α}
    (h : e ∈ place key value entries) : e = (key, value) ∨ e ∈ entries := by
  induction entries with
  | nil => exact Or.inl (by simpa [place] using h)
  | cons x rest ih =>
    obtain ⟨k, v⟩ := x
    simp only [place] at h
    split at h
    · rcases List.mem_cons.mp h with h | h
      · exact Or.inl h
      · exact Or.inr h
    · split at h
      · rcases List.mem_cons.mp h with h | h
        · exact Or.inl h
        · exact Or.inr (List.mem_cons_of_mem _ h)
      · rcases List.mem_cons.mp h with h | h
        · exact Or.inr (h ▸ List.mem_cons_self)
        · exact (ih h).imp_right (List.mem_cons_of_mem _)

theorem ascending_place {key : Text} {value : α} {entries : List (Text × α)}
    (h : Ascending entries) : Ascending (place key value entries) := by
  induction entries with
  | nil => simp [place, Ascending]
  | cons x rest ih =>
    obtain ⟨k, v⟩ := x
    obtain ⟨hhead, htail⟩ := List.pairwise_cons.mp h
    simp only [place]
    split
    next hlt =>
      refine List.pairwise_cons.mpr ⟨fun e he => ?_, h⟩
      rcases List.mem_cons.mp he with rfl | he
      · exact hlt
      · exact List.lt_trans hlt (hhead e he)
    next hnlt =>
      split
      next heq => exact List.pairwise_cons.mpr ⟨fun e he => heq ▸ hhead e he, htail⟩
      next hne =>
        refine List.pairwise_cons.mpr ⟨fun e he => ?_, ih htail⟩
        rcases mem_place he with rfl | he
        · rcases Std.lt_trichotomy k key with hk | hk | hk
          · exact hk
          · exact absurd hk.symm hne
          · exact absurd hk hnlt
        · exact hhead e he

end Dict

/-- A finite map with texts as keys. -/
structure Dict (α : Type) where
  /-- The entries, in ascending order of the keys. -/
  entries : List (Text × α)
  ascending : Dict.Ascending entries
deriving DecidableEq

namespace Dict

variable {α β : Type}

def empty : Dict α :=
  ⟨[], List.Pairwise.nil⟩

instance : Inhabited (Dict α) :=
  ⟨empty⟩

/-- Looks up a key. -/
def get? (d : Dict α) (key : Text) : Option α :=
  find? key d.entries

/-- Puts a value under a key, in the place of the one that was there. -/
def insert (d : Dict α) (key : Text) (value : α) : Dict α :=
  ⟨place key value d.entries, ascending_place d.ascending⟩

/-- The map of a list of entries, the last of those with one key. -/
def ofList (entries : List (Text × α)) : Dict α :=
  entries.foldl (fun d e => d.insert e.1 e.2) empty

def keys (d : Dict α) : List Text :=
  d.entries.map Prod.fst

def values (d : Dict α) : List α :=
  d.entries.map Prod.snd

def contains (d : Dict α) (key : Text) : Bool :=
  (d.get? key).isSome

def size (d : Dict α) : Nat :=
  d.entries.length

/-- The first map with all entries of the second written over it. -/
def override (base top : Dict α) : Dict α :=
  top.entries.foldl (fun d e => d.insert e.1 e.2) base

/-- Changes each value and leaves the keys alone. -/
def map (f : α → β) (d : Dict α) : Dict β where
  entries := d.entries.map fun e => (e.1, f e.2)
  ascending := by
    have h := d.ascending
    unfold Ascending at h ⊢
    exact List.pairwise_map.mpr h

/-! ## Look-up -/

@[simp] theorem get?_empty (key : Text) : (empty : Dict α).get? key = none :=
  rfl

theorem find?_eq_none_of_forall_ne {key : Text} {entries : List (Text × α)}
    (h : ∀ e ∈ entries, e.1 ≠ key) : find? key entries = none := by
  induction entries with
  | nil => rfl
  | cons e rest ih =>
    simp only [find?]
    rw [if_neg (h e List.mem_cons_self)]
    exact ih fun e he => h e (List.mem_cons_of_mem _ he)

@[simp] theorem find?_place (key other : Text) (value : α) (entries : List (Text × α)) :
    find? other (place key value entries) =
      if key = other then some value else find? other entries := by
  induction entries with
  | nil => simp [place, find?]
  | cons e rest ih =>
    obtain ⟨k, v⟩ := e
    simp only [place]
    split
    next => simp only [find?]
    next =>
      split
      next heq => subst heq; simp only [find?]; split <;> rfl
      next hne =>
        simp only [find?, ih]
        split
        next hk => subst hk; rw [if_neg hne]
        next => rfl

@[simp] theorem get?_insert (d : Dict α) (key other : Text) (value : α) :
    (d.insert key value).get? other = if key = other then some value else d.get? other :=
  find?_place key other value d.entries

theorem find?_eq_some_of_mem {entries : List (Text × α)} (h : Ascending entries) {e : Text × α}
    (he : e ∈ entries) : find? e.1 entries = some e.2 := by
  induction entries with
  | nil => exact absurd he List.not_mem_nil
  | cons x rest ih =>
    obtain ⟨hhead, htail⟩ := List.pairwise_cons.mp h
    rcases List.mem_cons.mp he with rfl | hmem
    · simp [find?]
    · have hne : x.1 ≠ e.1 := fun heq => List.lt_irrefl e.1 (heq ▸ hhead e hmem)
      simp only [find?]
      rw [if_neg hne]
      exact ih htail hmem

theorem mem_of_find?_eq_some {key : Text} {value : α} {entries : List (Text × α)}
    (h : find? key entries = some value) : (key, value) ∈ entries := by
  induction entries with
  | nil => simp [find?] at h
  | cons x rest ih =>
    obtain ⟨k, v⟩ := x
    simp only [find?] at h
    split at h
    next hk =>
      subst hk
      cases h
      exact List.mem_cons_self
    next => exact List.mem_cons_of_mem _ (ih h)

theorem get?_eq_some_iff {d : Dict α} {key : Text} {value : α} :
    d.get? key = some value ↔ (key, value) ∈ d.entries :=
  ⟨mem_of_find?_eq_some, fun h => find?_eq_some_of_mem d.ascending h⟩

theorem mem_of_mem_foldl_insert {entries : List (Text × α)} {d : Dict α} {e : Text × α}
    (h : e ∈ (entries.foldl (fun d e => d.insert e.1 e.2) d).entries) :
    e ∈ d.entries ∨ e ∈ entries := by
  induction entries generalizing d with
  | nil => exact Or.inl h
  | cons x rest ih =>
    rcases ih h with hplaced | hrest
    · rcases mem_place hplaced with rfl | hold
      · exact Or.inr List.mem_cons_self
      · exact Or.inl hold
    · exact Or.inr (List.mem_cons_of_mem _ hrest)

theorem mem_of_get?_ofList {entries : List (Text × α)} {key : Text} {value : α}
    (h : (ofList entries).get? key = some value) : (key, value) ∈ entries := by
  rcases mem_of_mem_foldl_insert (get?_eq_some_iff.mp h) with hempty | hmem
  · exact absurd hempty List.not_mem_nil
  · exact hmem

theorem get?_foldl_insert (entries : List (Text × α)) (hasc : Ascending entries) (d : Dict α)
    (key : Text) :
    (entries.foldl (fun d e => d.insert e.1 e.2) d).get? key =
      (find? key entries).or (d.get? key) := by
  induction entries generalizing d with
  | nil => simp [find?]
  | cons e rest ih =>
    obtain ⟨hhead, htail⟩ := List.pairwise_cons.mp hasc
    rw [List.foldl_cons, ih htail, get?_insert]
    simp only [find?]
    split
    next hk =>
      have hnone : find? key rest = none :=
        find?_eq_none_of_forall_ne fun x hx hxk =>
          List.lt_irrefl key (by have := hhead x hx; rwa [hk, hxk] at this)
      simp [hnone]
    next => rfl

/-- Where both maps have a value, that of the second is kept. -/
@[simp] theorem get?_override (base top : Dict α) (key : Text) :
    (base.override top).get? key = (top.get? key).or (base.get? key) :=
  get?_foldl_insert top.entries top.ascending base key

@[simp] theorem get?_map (f : α → β) (d : Dict α) (key : Text) :
    (d.map f).get? key = (d.get? key).map f := by
  show find? key (d.entries.map fun e => (e.1, f e.2)) = (find? key d.entries).map f
  induction d.entries with
  | nil => rfl
  | cons e rest ih =>
    simp only [List.map_cons, find?, ih]
    split <;> rfl

@[simp] theorem keys_map (f : α → β) (d : Dict α) : (d.map f).keys = d.keys := by
  simp [keys, map]

@[simp] theorem size_map (f : α → β) (d : Dict α) : (d.map f).size = d.size := by
  simp [size, map]

/-! ## Equality -/

theorem find?_eq_none_of_lt {key : Text} {e : Text × α} {rest : List (Text × α)}
    (h : Ascending (e :: rest)) (hlt : key < e.1) : find? key (e :: rest) = none := by
  refine find?_eq_none_of_forall_ne fun x hx hxk => List.lt_irrefl x.1 ?_
  rw [← hxk] at hlt
  rcases List.mem_cons.mp hx with rfl | hx
  · exact hlt
  · exact List.lt_trans hlt ((List.pairwise_cons.mp h).1 x hx)

theorem entries_eq_of_find?_eq {l m : List (Text × α)} (hl : Ascending l) (hm : Ascending m)
    (h : ∀ key, find? key l = find? key m) : l = m := by
  induction l generalizing m with
  | nil =>
    cases m with
    | nil => rfl
    | cons e m => simpa [find?] using h e.1
  | cons d l ih =>
    cases m with
    | nil => simpa [find?] using h d.1
    | cons e m =>
      have hd : find? d.1 (d :: l) = some d.2 := by simp [find?]
      have he : find? e.1 (e :: m) = some e.2 := by simp [find?]
      obtain ⟨hdhead, hdtail⟩ := List.pairwise_cons.mp hl
      obtain ⟨hehead, hetail⟩ := List.pairwise_cons.mp hm
      rcases Std.lt_trichotomy d.1 e.1 with hlt | heq | hlt
      · have hnone := find?_eq_none_of_lt hm hlt
        rw [← h, hd] at hnone
        exact absurd hnone (by simp)
      · have hvalue : d.2 = e.2 := by
          have := h d.1
          rw [hd, heq, he] at this
          exact Option.some.inj this
        have hfirst : d = e := Prod.ext heq hvalue
        subst hfirst
        refine congrArg (d :: ·) (ih hdtail hetail fun key => ?_)
        by_cases hk : d.1 = key
        · subst hk
          rw [find?_eq_none_of_forall_ne fun x hx hxk =>
              List.lt_irrefl d.1 (by have := hdhead x hx; rwa [hxk] at this),
            find?_eq_none_of_forall_ne fun x hx hxk =>
              List.lt_irrefl d.1 (by have := hehead x hx; rwa [hxk] at this)]
        · have := h key
          simpa [find?, hk] using this
      · have hnone := find?_eq_none_of_lt hl hlt
        rw [h, he] at hnone
        exact absurd hnone (by simp)

theorem ext {d e : Dict α} (h : ∀ key, d.get? key = e.get? key) : d = e := by
  obtain ⟨l, hl⟩ := d
  obtain ⟨m, hm⟩ := e
  cases entries_eq_of_find?_eq hl hm h
  rfl

end Dict

end Gatekeeper
