import BuildBench.Json.Basic
import Mathlib.Data.List.Induction
import Mathlib.Data.List.Nodup

set_option autoImplicit false

/-! Members of JSON objects. Main statement: an object that is made of members holds, under the name
of each, the last of that name, and its names ascend. -/

namespace BuildBench.Json

/-- The names of the members ascend, so that no two have the same. -/
def Ascending (members : List (String × Value)) : Prop :=
  (members.map Prod.fst).Pairwise (· < ·)

/-- A list of members, put one after the other into an object. -/
def memberList (members : List (String × Value)) : List (String × Value) :=
  members.foldl (fun held member => insertMember member.1 member.2 held) []

/-! ### One member -/

section Insert

variable {name other : String} {value : Value} {members : List (String × Value)}

theorem mem_names_insertMember :
    other ∈ (insertMember name value members).map Prod.fst ↔
      other = name ∨ other ∈ members.map Prod.fst := by
  induction members with
  | nil => simp [insertMember]
  | cons member rest ih =>
      obtain ⟨head, held⟩ := member
      rw [insertMember]
      by_cases before : name < head
      · rw [if_pos before]
        simp
      by_cases same : name = head
      · rw [if_neg before, if_pos same, same]
        simp
      · rw [if_neg before, if_neg same, List.map_cons, List.mem_cons, ih, List.map_cons,
          List.mem_cons]
        exact or_left_comm

theorem mem_of_mem_insertMember {member : String × Value}
    (kept : member ∈ insertMember name value members) :
    member = (name, value) ∨ member ∈ members := by
  induction members with
  | nil => exact Or.inl (List.mem_singleton.mp kept)
  | cons first rest ih =>
      obtain ⟨head, held⟩ := first
      rw [insertMember] at kept
      split at kept
      · exact List.mem_cons.mp kept
      · split at kept
        · exact (List.mem_cons.mp kept).imp_right (List.mem_cons_of_mem _)
        · rcases List.mem_cons.mp kept with own | later
          · exact Or.inr (own ▸ List.mem_cons_self)
          · exact (ih later).imp_right (List.mem_cons_of_mem _)

theorem Ascending.insertMember (ascending : Ascending members) (name : String) (value : Value) :
    Ascending (insertMember name value members) := by
  unfold Ascending
  induction members with
  | nil => exact List.pairwise_singleton _ _
  | cons member rest ih =>
      obtain ⟨head, held⟩ := member
      obtain ⟨least, others⟩ := List.pairwise_cons.mp ascending
      rw [Json.insertMember]
      by_cases before : name < head
      · rw [if_pos before]
        refine List.pairwise_cons.mpr ⟨?_, ascending⟩
        intro later member
        rcases List.mem_cons.mp member with same | further
        · rw [same]
          exact before
        · exact String.lt_trans before (least later further)
      by_cases same : name = head
      · rw [if_neg before, if_pos same, same]
        exact ascending
      · rw [if_neg before, if_neg same]
        refine List.pairwise_cons.mpr ⟨?_, ih others⟩
        intro later member
        rcases mem_names_insertMember.mp member with new | known
        · rw [new]
          exact Std.lt_of_le_of_ne (String.not_lt.mp before) (Ne.symm same)
        · exact least later known

theorem Ascending.nodup (ascending : Ascending members) : (members.map Prod.fst).Nodup := by
  refine ascending.imp ?_
  rintro first _ before rfl
  exact String.lt_irrefl first before

/-- Members whose names ascend are known from which they are. -/
theorem Ascending.eq_of_mem_iff {others : List (String × Value)} (ascending : Ascending members)
    (again : Ascending others)
    (same : ∀ name value, (name, value) ∈ members ↔ (name, value) ∈ others) : members = others := by
  have perm : members.Perm others :=
    (List.perm_ext_iff_of_nodup (List.Nodup.of_map Prod.fst ascending.nodup)
      (List.Nodup.of_map Prod.fst again.nodup)).mpr fun member => same member.1 member.2
  refine List.Perm.eq_of_pairwise ?_ (List.pairwise_map.mp ascending) (List.pairwise_map.mp again) perm
  intro first second _ _ before after
  exact absurd (String.lt_trans before after) (String.lt_irrefl _)

/-- After a member was put in, it is there, and so are those of other names. -/
theorem mem_insertMember (ascending : Ascending members) {held : Value} :
    (other, held) ∈ insertMember name value members ↔
      (other = name ∧ held = value) ∨ (other ≠ name ∧ (other, held) ∈ members) := by
  induction members with
  | nil =>
      rw [insertMember, List.mem_singleton, Prod.mk.injEq]
      simp
  | cons member rest ih =>
      obtain ⟨head, first⟩ := member
      obtain ⟨least, others⟩ := List.pairwise_cons.mp ascending
      have above (later : String) (kept : Value) (member : (later, kept) ∈ rest) : head < later :=
        least later (List.mem_map.mpr ⟨_, member, rfl⟩)
      rw [insertMember]
      by_cases before : name < head
      · -- The names from here on are larger, so that none of them is the new one.
        rw [if_pos before, List.mem_cons, Prod.mk.injEq]
        refine or_congr_right ⟨fun member => ⟨?_, member⟩, And.right⟩
        rintro rfl
        rcases List.mem_cons.mp member with own | later
        · rw [Prod.mk.injEq] at own
          exact String.lt_irrefl _ (own.1 ▸ before)
        · exact String.lt_irrefl _ (String.lt_trans before (above _ _ later))
      by_cases same : name = head
      · subst same
        rw [if_neg before, if_pos rfl, List.mem_cons, List.mem_cons, Prod.mk.injEq, Prod.mk.injEq]
        refine or_congr_right ?_
        constructor
        · intro member
          have apart : other ≠ name := by
            rintro rfl
            exact String.lt_irrefl _ (above _ _ member)
          exact ⟨apart, Or.inr member⟩
        · rintro ⟨apart, own | later⟩
          · exact absurd own.1 apart
          · exact later
      · rw [if_neg before, if_neg same, List.mem_cons, List.mem_cons, ih others, Prod.mk.injEq]
        constructor
        · rintro (⟨rfl, rfl⟩ | new | ⟨apart, later⟩)
          · exact Or.inr ⟨Ne.symm same, Or.inl ⟨rfl, rfl⟩⟩
          · exact Or.inl new
          · exact Or.inr ⟨apart, Or.inr later⟩
        · rintro (new | ⟨apart, own | later⟩)
          · exact Or.inr (Or.inl new)
          · exact Or.inl own
          · exact Or.inr (Or.inr ⟨apart, later⟩)

end Insert

/-! ### All members -/

variable {members : List (String × Value)} {name : String} {value : Value}

theorem memberList_append_singleton (members : List (String × Value)) (name : String)
    (value : Value) :
    memberList (members ++ [(name, value)]) = insertMember name value (memberList members) := by
  unfold memberList
  rw [List.foldl_append]
  rfl

theorem ascending_memberList (members : List (String × Value)) : Ascending (memberList members) := by
  induction members using List.reverseRecOn with
  | nil => exact List.Pairwise.nil
  | append_singleton earlier member ih =>
      rw [memberList_append_singleton]
      exact ih.insertMember _ _

theorem mem_names_memberList :
    name ∈ (memberList members).map Prod.fst ↔ name ∈ members.map Prod.fst := by
  induction members using List.reverseRecOn with
  | nil => exact Iff.rfl
  | append_singleton earlier member ih =>
      rw [memberList_append_singleton, mem_names_insertMember, ih, List.map_append, List.mem_append,
        List.map_singleton, List.mem_singleton]
      exact or_comm

/-- A member is held if no later one has its name. -/
theorem mem_memberList : (name, value) ∈ memberList members ↔
    ∃ before after, members = before ++ (name, value) :: after ∧ name ∉ after.map Prod.fst := by
  induction members using List.reverseRecOn with
  | nil => simp [memberList]
  | append_singleton earlier member ih =>
      obtain ⟨last, held⟩ := member
      rw [memberList_append_singleton, mem_insertMember (ascending_memberList earlier), ih]
      constructor
      · rintro (⟨rfl, rfl⟩ | ⟨apart, before, after, rfl, absent⟩)
        · exact ⟨earlier, [], rfl, List.not_mem_nil⟩
        · refine ⟨before, after ++ [(last, held)], by simp, ?_⟩
          rw [List.map_append, List.mem_append, not_or]
          exact ⟨absent, by simpa using apart⟩
      · rintro ⟨before, after, split, absent⟩
        -- Either the last member is the one in question, or it has another name.
        rcases List.eq_nil_or_concat after with rfl | ⟨others, final, rfl⟩
        · obtain ⟨-, same⟩ := List.append_inj' split rfl
          left
          rw [List.cons.injEq, Prod.mk.injEq] at same
          exact ⟨same.1.1.symm, same.1.2.symm⟩
        · rw [List.concat_eq_append, ← List.cons_append, ← List.append_assoc] at split
          obtain ⟨front, same⟩ := List.append_inj' split rfl
          rw [List.concat_eq_append, List.map_append, List.mem_append, not_or] at absent
          obtain rfl := List.singleton_inj.mp same
          exact Or.inr ⟨by simpa using absent.2, before, others, front, absent.1⟩

theorem mem_memberList_iff_getElem? : (name, value) ∈ memberList members ↔
    ∃ i : Nat, members[i]? = some (name, value) ∧
      ∀ j, i < j → ∀ other, members[j]? ≠ some (name, other) := by
  rw [mem_memberList]
  constructor
  · rintro ⟨before, after, rfl, absent⟩
    refine ⟨before.length, by simp, ?_⟩
    intro j behind other found
    obtain ⟨k, rfl⟩ := Nat.exists_eq_add_of_lt behind
    rw [List.getElem?_append_right (by omega), show before.length + k + 1 - before.length = k + 1 by
      omega, List.getElem?_cons_succ] at found
    exact absent (List.mem_map.mpr ⟨_, List.mem_of_getElem? found, rfl⟩)
  · rintro ⟨i, found, last⟩
    obtain ⟨within, same⟩ := List.getElem?_eq_some_iff.mp found
    refine ⟨members.take i, members.drop (i + 1), ?_, ?_⟩
    · rw [← same, ← List.drop_eq_getElem_cons within, List.take_append_drop]
    · intro member
      obtain ⟨⟨_, other⟩, held, rfl⟩ := List.mem_map.mp member
      obtain ⟨k, behind⟩ := List.mem_iff_getElem?.mp held
      rw [List.getElem?_drop] at behind
      exact last (i + 1 + k) (by omega) other behind

theorem mem_of_mem_memberList {member : String × Value} (held : member ∈ memberList members) :
    member ∈ members := by
  obtain ⟨before, after, rfl, -⟩ := mem_memberList.mp held
  simp

theorem mem_memberList_of_nodup (distinct : (members.map Prod.fst).Nodup) :
    (name, value) ∈ memberList members ↔ (name, value) ∈ members := by
  refine ⟨mem_of_mem_memberList, ?_⟩
  intro member
  obtain ⟨before, after, rfl⟩ := List.append_of_mem member
  refine mem_memberList.mpr ⟨before, after, rfl, ?_⟩
  rw [List.map_append, List.map_cons] at distinct
  exact (List.nodup_cons.mp (List.nodup_append.mp distinct).2.1).1

theorem names_memberList_perm (distinct : (members.map Prod.fst).Nodup) :
    ((memberList members).map Prod.fst).Perm (members.map Prod.fst) := by
  have once := (ascending_memberList members).nodup
  exact (List.perm_ext_iff_of_nodup once distinct).mpr fun _ => mem_names_memberList

end BuildBench.Json
