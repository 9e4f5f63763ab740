/-
  Values in which no object repeats a name.

  Reading keeps the last of the members with one name.  What comes out repeats
  no name (`distinct_plain`), and a value that repeats none stays as it is
  (`Distinct.plain_eq`).  Looking up a member takes its last value anyway, so
  it finds the same in both (`get?_plain`).
-/

import TypedDocs.Json.Value

namespace TypedDocs.Json

variable {name : String} {m : Text × Json} {ms : List (Text × Json)} {v : Json}

/-! ## Looking up a member -/

/-- The members behind the first one come before it. -/
theorem get?_object_cons : (object (m :: ms)).get? name =
    ((object ms).get? name).or (if m.1 = name.toList then some m.2 else none) := by
  simp only [get?, List.reverse_cons, List.find?_append, Option.map_or]
  congr 1
  by_cases hname : m.1 = name.toList
  · simp [hname]
  · simp [hname]

theorem get?_object_eq_none_iff : (object ms).get? name = none ↔ ∀ m ∈ ms, m.1 ≠ name.toList := by
  simp [get?]

/-- Members of other names do not matter. -/
theorem get?_object_filter {p : Text × Json → Bool}
    (hp : ∀ m ∈ ms, m.1 = name.toList → p m = true) :
    (object (ms.filter p)).get? name = (object ms).get? name := by
  induction ms with
  | nil => rfl
  | cons m ms ih =>
    have hrest := ih fun m hm => hp m (List.mem_cons_of_mem _ hm)
    cases hm : p m with
    | true => rw [List.filter_cons_of_pos hm, get?_object_cons, get?_object_cons, hrest]
    | false =>
      have hother : m.1 ≠ name.toList := by
        intro hname
        rw [hp m (List.mem_cons_self ..) hname] at hm
        cases hm
      rw [List.filter_cons_of_neg (by simp [hm]), get?_object_cons, hrest, if_neg hother,
        Option.or_none]

/-! ## Distinct names -/

mutual

/-- No object in a value repeats a name. -/
def Distinct : Json → Prop
  | .array items => DistinctItems items
  | .object members => (members.map (·.1)).Nodup ∧ DistinctMembers members
  | _ => True

@[inherit_doc Distinct]
def DistinctItems : List Json → Prop
  | [] => True
  | v :: vs => Distinct v ∧ DistinctItems vs

@[inherit_doc Distinct]
def DistinctMembers : List (Text × Json) → Prop
  | [] => True
  | (_, v) :: ms => Distinct v ∧ DistinctMembers ms

end

theorem distinctItems_iff {vs : List Json} : DistinctItems vs ↔ ∀ v ∈ vs, v.Distinct := by
  induction vs with
  | nil => simp [DistinctItems]
  | cons v vs ih => simp [DistinctItems, ih]

theorem distinctMembers_iff : DistinctMembers ms ↔ ∀ m ∈ ms, m.2.Distinct := by
  induction ms with
  | nil => simp [DistinctMembers]
  | cons m ms ih => simp [DistinctMembers, ih]

theorem distinct_array_iff {vs : List Json} : (array vs).Distinct ↔ ∀ v ∈ vs, v.Distinct := by
  rw [Distinct, distinctItems_iff]

theorem distinct_object_iff :
    (object ms).Distinct ↔ (ms.map (·.1)).Nodup ∧ ∀ m ∈ ms, m.2.Distinct := by
  rw [Distinct, distinctMembers_iff]

/-! ## Last members -/

theorem lastMembers_subset : lastMembers ms ⊆ ms := by
  intro m hm
  fun_induction lastMembers ms with
  | case1 => exact hm
  | case2 m' ms _ ih => exact List.mem_cons_of_mem _ (ih hm)
  | case3 m' ms _ ih =>
    rcases List.mem_cons.1 hm with rfl | hm
    · exact List.mem_cons_self ..
    · exact List.mem_cons_of_mem _ (ih hm)

theorem nodup_lastMembers (ms : List (Text × Json)) : ((lastMembers ms).map (·.1)).Nodup := by
  fun_induction lastMembers ms with
  | case1 => exact List.nodup_nil
  | case2 m ms _ ih => exact ih
  | case3 m ms hlast ih =>
    refine List.nodup_cons.2 ⟨fun hm => hlast ?_, ih⟩
    -- A later member of the same name would stand among the members already.
    obtain ⟨other, hother, hname⟩ := List.mem_map.1 hm
    exact List.any_eq_true.2 ⟨other, lastMembers_subset hother, beq_iff_eq.2 hname⟩

theorem lastMembers_eq_of_nodup (h : (ms.map (·.1)).Nodup) : lastMembers ms = ms := by
  fun_induction lastMembers ms with
  | case1 => rfl
  | case2 m ms hlater ih =>
    obtain ⟨other, hother, hname⟩ := List.any_eq_true.1 hlater
    have hmem : m.1 ∈ ms.map (·.1) := List.mem_map.2 ⟨other, hother, beq_iff_eq.1 hname⟩
    exact absurd hmem (List.nodup_cons.1 h).1
  | case3 m ms _ ih => rw [ih (List.nodup_cons.1 h).2]

theorem get?_object_lastMembers :
    (object (lastMembers ms)).get? name = (object ms).get? name := by
  fun_induction lastMembers ms with
  | case1 => rfl
  | case2 m ms hlater ih =>
    rw [ih, get?_object_cons]
    by_cases hname : m.1 = name.toList
    · -- The member is not seen, as a later one has its name.
      obtain ⟨other, hother, hsame⟩ := List.any_eq_true.1 hlater
      have hfound : (object ms).get? name ≠ none := by
        intro hnone
        exact get?_object_eq_none_iff.1 hnone other hother ((beq_iff_eq.1 hsame).trans hname)
      obtain ⟨w, hw⟩ := Option.ne_none_iff_exists'.1 hfound
      rw [hw, Option.some_or]
    · rw [if_neg hname, Option.or_none]
  | case3 m ms _ ih => rw [get?_object_cons, get?_object_cons, ih]

/-! ## Plain values -/

theorem plainMembers_eq_map (ms : List (Text × Json)) :
    plainMembers ms = ms.map fun m => (m.1, m.2.plain) := by
  induction ms with
  | nil => rfl
  | cons m ms ih => rw [plainMembers, ih, List.map_cons]

theorem get?_object_plainMembers :
    (object (plainMembers ms)).get? name = ((object ms).get? name).map plain := by
  induction ms with
  | nil => rfl
  | cons m ms ih =>
    rw [plainMembers, get?_object_cons, ih, get?_object_cons, Option.map_or]
    split <;> rfl

/-- A member of a plain value is the plain value of that member. -/
theorem get?_plain (v : Json) : v.plain.get? name = (v.get? name).map plain := by
  cases v with
  | object ms => rw [plain, get?_object_lastMembers, get?_object_plainMembers]
  | _ => rfl

theorem plain_eq_null_iff : v.plain = .null ↔ v = .null := by
  cases v <;> simp [plain]

mutual

theorem distinct_plain : ∀ v : Json, v.plain.Distinct
  | .array items => by
    rw [plain, Distinct]
    exact distinctItems_plainItems items
  | .object members => by
    rw [plain, distinct_object_iff]
    exact ⟨nodup_lastMembers _, fun m hm =>
      distinctMembers_iff.1 (distinctMembers_plainMembers members) m (lastMembers_subset hm)⟩
  | .null => trivial
  | .bool _ => trivial
  | .number _ => trivial
  | .string _ => trivial

theorem distinctItems_plainItems : ∀ vs : List Json, DistinctItems (plainItems vs)
  | [] => trivial
  | v :: vs => ⟨distinct_plain v, distinctItems_plainItems vs⟩

theorem distinctMembers_plainMembers : ∀ ms : List (Text × Json), DistinctMembers (plainMembers ms)
  | [] => trivial
  | (_, v) :: ms => ⟨distinct_plain v, distinctMembers_plainMembers ms⟩

end

mutual

/-- A value that repeats no name is plain already. -/
theorem Distinct.plain_eq : ∀ {v : Json}, v.Distinct → v.plain = v
  | .array _, h => congrArg array (DistinctItems.plainItems_eq h)
  | .object members, h => by
    have hmembers := DistinctMembers.plainMembers_eq h.2
    rw [plain, hmembers, lastMembers_eq_of_nodup h.1]
  | .null, _ => rfl
  | .bool _, _ => rfl
  | .number _, _ => rfl
  | .string _, _ => rfl

theorem DistinctItems.plainItems_eq : ∀ {vs : List Json}, DistinctItems vs → plainItems vs = vs
  | [], _ => rfl
  | _ :: _, h => by
    rw [plainItems, Distinct.plain_eq h.1, DistinctItems.plainItems_eq h.2]

theorem DistinctMembers.plainMembers_eq :
    ∀ {ms : List (Text × Json)}, DistinctMembers ms → plainMembers ms = ms
  | [], _ => rfl
  | _ :: _, h => by
    rw [plainMembers, Distinct.plain_eq h.1, DistinctMembers.plainMembers_eq h.2]

end

end TypedDocs.Json
