import GhostMedia.Control.JsonAcceptance
import GhostMedia.Control.MessageSpec
import Mathlib.Data.List.Perm.Basic
import Mathlib.Data.List.Perm.Subperm

/- The accessors of the schema layer over an object with distinct member names: each
   is membership of the right kind of value, and the key test together with the
   fields is a member list up to order. -/
namespace GhostMedia.Control
open Json

/-- Every object of a tree has distinct member names. -/
inductive DistinctNames : JsonValue → Prop
  | object {members : Members} (distinct : (members.map Prod.fst).Nodup)
      (inner : ∀ member ∈ members, DistinctNames member.2) : DistinctNames (.object members)
  | array {elements : List JsonValue} (inner : ∀ element ∈ elements, DistinctNames element) :
      DistinctNames (.array elements)
  | string {value : List UInt8} : DistinctNames (.string value)
  | number {value : UInt64} : DistinctNames (.number value)
  | boolean {value : Bool} : DistinctNames (.boolean value)

theorem separated_items {α : Type} {item : List UInt8 → α → Prop} {text : List UInt8}
    {as : List α} (separated : Separated item text as) : ∀ a ∈ as, ∃ part, item part a := by
  induction separated with
  | one only =>
    intro a member
    rw [List.mem_singleton.mp member]
    exact ⟨_, only⟩
  | more first _ ih =>
    intro a member
    rcases List.mem_cons.mp member with rfl | later
    · exact ⟨_, first⟩
    · exact ih a later

theorem enclosed_items {α : Type} {first last : UInt8} {item : List UInt8 → α → Prop}
    {text : List UInt8} {as : List α} (enclosed : Enclosed first last item text as) :
    ∀ a ∈ as, ∃ part, item part a := by
  cases enclosed with
  | empty => simp
  | items separated => exact separated_items separated

theorem nested_value_distinct (levels : Nat) (text : List UInt8) (v : JsonValue)
    (value : NestedValue levels text v) : DistinctNames v := by
  induction levels generalizing text v with
  | zero => cases value
  | succ levels ih =>
    cases value with
    | object contents distinct =>
      refine .object distinct fun member inside => ?_
      obtain ⟨_, _, _, _, _, inner, _, _, _, _, _, _, _, value⟩ :=
        enclosed_items contents member inside
      exact ih inner member.2 value
    | array contents =>
      refine .array fun element inside => ?_
      obtain ⟨_, _, inner, _, _, _, _, value⟩ := enclosed_items contents element inside
      exact ih inner element value
    | string => exact .string
    | number => exact .number
    | true => exact .boolean
    | false => exact .boolean

theorem document_distinct_names {text : List UInt8} {root : JsonValue}
    (document : DocumentText text root) : DistinctNames root := by
  obtain ⟨_, _, body, _, _, _, _, value⟩ := document
  exact nested_value_distinct 16 body root value

theorem distinct_object {members : Members} (names : DistinctNames (.object members)) :
    (members.map Prod.fst).Nodup := by
  cases names with
  | object distinct => exact distinct

theorem distinct_member {members : Members} (names : DistinctNames (.object members))
    {name : List UInt8} {value : JsonValue} (member : (name, value) ∈ members) :
    DistinctNames value := by
  cases names with
  | object _ inner => exact inner _ member

/-- A number in a 32-bit range is the number of its low half. -/
theorem u32_read_iff (read : UInt64) (min max value : UInt32) :
    (if read < min.toUInt64 || read > max.toUInt64 then none else some read.toUInt32) =
        some value ↔ read = value.toUInt64 ∧ min ≤ value ∧ value ≤ max := by
  have top := max.toNat_lt
  have bottom := value.toNat_lt
  constructor
  · intro found
    split at found
    · cases found
    rename_i inRange
    obtain rfl : read.toUInt32 = value := by simpa using found
    simp only [Bool.or_eq_true, decide_eq_true_eq, not_or, gt_iff_lt, UInt64.lt_iff_toNat_lt,
      UInt32.toNat_toUInt64, Nat.not_lt] at inRange
    simp only [UInt32.le_iff_toNat_le, UInt64.toNat_toUInt32, ← UInt64.toNat_inj,
      UInt32.toNat_toUInt64]
    omega
  · rintro ⟨rfl, low, high⟩
    rw [if_neg]
    · simp
    · simp only [Bool.or_eq_true, decide_eq_true_eq, not_or, gt_iff_lt, UInt64.lt_iff_toNat_lt,
        UInt32.toNat_toUInt64, Nat.not_lt]
      exact ⟨low, high⟩

section Accessors
variable {members : Members} (distinct : (members.map Prod.fst).Nodup)
include distinct

theorem required_string_iff (name value : List UInt8) :
    getRequiredString (.object members) name = some value ↔ (name, .string value) ∈ members := by
  rw [← find_member_iff distinct, getRequiredString]
  cases findMember (.object members) name with
  | none => simp
  | some found => cases found <;> simp

theorem optional_string_some (name value : List UInt8) :
    getOptionalString (.object members) name = some (some value) ↔
      (name, .string value) ∈ members := by
  rw [← find_member_iff distinct, getOptionalString]
  cases findMember (.object members) name with
  | none => simp
  | some found => cases found <;> simp

theorem required_object_iff (name : List UInt8) (value : JsonValue) :
    getRequiredObject (.object members) name = some value ↔
      (name, value) ∈ members ∧ ∃ inner, value = .object inner := by
  rw [← find_member_iff distinct, getRequiredObject]
  cases findMember (.object members) name with
  | none => simp
  | some found => cases found <;> simp [eq_comm] <;> rintro rfl <;> simp

theorem required_array_iff (name : List UInt8) (elements : List JsonValue) :
    getRequiredArray (.object members) name = some elements ↔
      (name, .array elements) ∈ members := by
  rw [← find_member_iff distinct, getRequiredArray]
  cases findMember (.object members) name with
  | none => simp
  | some found => cases found <;> simp

theorem required_bool_iff (name : List UInt8) (value : Bool) :
    getRequiredBool (.object members) name = some value ↔ (name, .boolean value) ∈ members := by
  rw [← find_member_iff distinct, getRequiredBool]
  cases findMember (.object members) name with
  | none => simp
  | some found => cases found <;> simp

theorem required_u32_iff (name : List UInt8) (min max value : UInt32) :
    getRequiredU32 (.object members) name min max = some value ↔
      (name, number value) ∈ members ∧ min ≤ value ∧ value ≤ max := by
  rw [← find_member_iff distinct, getRequiredU32]
  cases findMember (.object members) name with
  | none => simp
  | some found =>
    cases found with
    | number read => simpa [number] using u32_read_iff read min max value
    | _ => simp [number]

theorem exact_keys_iff (keys : List (List UInt8)) :
    objectHasExactKeys (.object members) keys = true ↔ (members.map Prod.fst).Perm keys := by
  simp only [objectHasExactKeys, Bool.and_eq_true, decide_eq_true_eq, List.all_eq_true,
    List.any_eq_true]
  constructor
  · rintro ⟨size, known⟩
    have subset : members.map Prod.fst ⊆ keys := by
      intro name present
      obtain ⟨member, inside, rfl⟩ := List.mem_map.mp present
      obtain ⟨key, listed, same⟩ := known member inside
      exact same ▸ listed
    exact (List.subperm_of_subset distinct subset).perm_of_length_le (by simp [size])
  · intro same
    refine ⟨by simpa using same.length_eq, fun member inside => ?_⟩
    exact ⟨member.1, same.subset (List.mem_map_of_mem inside), rfl⟩

/-- A member list is these entries in some order when it has their keys and each of
    their values. -/
theorem members_perm_iff (entries : Members) (unique : (entries.map Prod.fst).Nodup) :
    members.Perm entries ↔ objectHasExactKeys (.object members) (entries.map Prod.fst) = true ∧
      ∀ entry ∈ entries, entry ∈ members := by
  rw [exact_keys_iff distinct]
  constructor
  · exact fun same => ⟨same.map Prod.fst, fun entry listed => same.symm.subset listed⟩
  · rintro ⟨keys, present⟩
    have nodup : entries.Nodup := unique.of_map
    have size : members.length = entries.length := by simpa using keys.length_eq
    exact ((List.subperm_of_subset nodup present).perm_of_length_le (by omega)).symm

end Accessors

@[simp] theorem check_bind_ok {α : Type} {condition : Bool} {next : Unit → Except GmStatus α}
    {a : α} : (check condition >>= next) = .ok a ↔ condition = true ∧ next () = .ok a := by
  cases condition <;> simp [check, bind, Except.bind]

@[simp] theorem require_bind_ok {α β : Type} {value : Option α} {next : α → Except GmStatus β}
    {b : β} : (require value >>= next) = .ok b ↔ ∃ a, value = some a ∧ next a = .ok b := by
  cases value <;> simp [require, bind, Except.bind]

@[simp] theorem return_ok {α : Type} {a b : α} :
    (pure a : Except GmStatus α) = .ok b ↔ a = b := by
  simp [pure, Except.pure]

end GhostMedia.Control
