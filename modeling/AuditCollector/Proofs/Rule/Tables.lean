import AuditCollector.Rule.Basic

namespace AuditCollector.Rule

-- A table with the given numbers in its first slots, and zero in all others.
def table (numbers : List UInt32) : Vector UInt32 maxFields :=
  Vector.ofFn fun slot => numbers.getD slot 0

-- The first two words of the mask are full, the others empty.
def watchMask : Vector UInt32 maskWords :=
  Vector.ofFn fun word => if word.val < 2 then 0xFFFFFFFF else 0

-- The rule that has these predicates and no others. All rules that can be made are of this
-- form.
def ofPredicates (path : Bytes) (predicates : List Predicate) : Rule where
  flags := exitFilter
  action := alwaysRecord
  count := predicates.length
  mask := watchMask
  fields := table (predicates.map (·.field.id))
  values := table (predicates.map (·.value))
  fieldFlags := table (predicates.map (·.operator.bits))
  path

section Table

variable {numbers : List UInt32} {i : Nat}

theorem getElem_table (numbers : List UInt32) (h : i < maxFields) :
    (table numbers)[i] = numbers.getD i 0 := by
  simp [table]

theorem getElem?_table (h : numbers.length ≤ maxFields) (hi : i < numbers.length) :
    (table numbers)[i]? = numbers[i]? := by
  have hslot : i < maxFields := by omega
  rw [Vector.getElem?_eq_getElem hslot, getElem_table _ hslot, List.getD_eq_getElem?_getD,
    List.getElem?_eq_getElem hi, Option.getD_some]

-- A table is filled from the front, so that writing behind the numbers makes them longer.
theorem table_append (numbers : List UInt32) (number : UInt32) :
    (table numbers).setIfInBounds numbers.length number = table (numbers ++ [number]) := by
  apply Vector.ext
  intro i hi
  rw [Vector.getElem_setIfInBounds, getElem_table _ hi, getElem_table _ hi]
  simp only [List.getD_eq_getElem?_getD, List.getElem?_append, List.getElem?_singleton]
  grind

theorem table_set (numbers : List UInt32) (hi : i < numbers.length) (number : UInt32) :
    (table numbers).setIfInBounds i number = table (numbers.set i number) := by
  apply Vector.ext
  intro j hj
  rw [Vector.getElem_setIfInBounds, getElem_table _ hj, getElem_table _ hj]
  simp only [List.getD_eq_getElem?_getD, List.getElem?_set, if_pos hi]
  grind

theorem take_toList_table (numbers : List UInt32) (h : numbers.length ≤ maxFields) :
    (table numbers).toList.take numbers.length = numbers := by
  apply List.ext_getElem?
  intro i
  by_cases hi : i < numbers.length
  · rw [List.getElem?_take_of_lt hi, Vector.getElem?_toList, getElem?_table h hi]
  · rw [List.getElem?_take_eq_none (by omega), List.getElem?_eq_none (by omega)]

end Table

section OfPredicates

variable {path : Bytes} {predicates : List Predicate} {accounts : Accounts}

theorem push_ofPredicates (path : Bytes) (predicates : List Predicate) (added : Predicate) :
    (ofPredicates path predicates).push added.field added.operator added.value =
      ofPredicates path (predicates ++ [added]) := by
  have happend : ∀ f : Predicate → UInt32, table ((predicates ++ [added]).map f) =
      (table (predicates.map f)).setIfInBounds predicates.length (f added) := by
    intro f
    rw [List.map_append, List.map_cons, List.map_nil, ← table_append, List.length_map]
  simp only [push, ofPredicates, happend, List.length_append, List.length_cons, List.length_nil]

def watchedPath (path : Bytes) : Predicate := ⟨.dir, .equal, UInt32.ofNat path.length⟩

def access (permissions : UInt32) : Predicate := ⟨.perm, .equal, permissions⟩

theorem table_nil : table [] = Vector.replicate maxFields 0 := by
  apply Vector.ext
  intro i hi
  rw [getElem_table _ hi, Vector.getElem_replicate]
  rfl

theorem watchMask_eq :
    ((Vector.replicate maskWords 0).setIfInBounds 0 0xFFFFFFFF).setIfInBounds 1 0xFFFFFFFF =
      watchMask := by
  apply Vector.ext
  intro i hi
  simp only [watchMask, Vector.getElem_setIfInBounds, Vector.getElem_replicate,
    Vector.getElem_ofFn]
  grind

theorem directoryWatch_eq_ofPredicates (path : Bytes) :
    directoryWatch path = ofPredicates path [watchedPath path, access Permission.allBits] := by
  calc directoryWatch path
      = ((ofPredicates path []).push (watchedPath path).field (watchedPath path).operator
          (watchedPath path).value).push (access Permission.allBits).field
            (access Permission.allBits).operator (access Permission.allBits).value := by
        simp only [directoryWatch, ofPredicates, List.map_nil, table_nil, watchMask_eq,
          List.length_nil, watchedPath, access]
    _ = ofPredicates path [watchedPath path, access Permission.allBits] := by
        rw [push_ofPredicates, push_ofPredicates]
        rfl

-- What was put into a slot is what it says, because fields and operators can be told by
-- their numbers.
theorem predicateAt?_ofPredicates {i : Nat} (h : predicates.length ≤ maxFields)
    (hi : i < predicates.length) :
    (ofPredicates path predicates).predicateAt? i = some predicates[i] := by
  have hslot : ∀ f : Predicate → UInt32,
      (table (predicates.map f))[i]? = some (f predicates[i]) := by
    intro f
    rw [getElem?_table (by rwa [List.length_map]) (by rwa [List.length_map]), List.getElem?_map,
      List.getElem?_eq_getElem hi, Option.map_some]
  simp only [predicateAt?, ofPredicates, hslot, bind, Option.bind, Field.ofId?_id,
    Operator.ofBits?_bits]
  rfl

theorem map_predicateAt?_ofPredicates (h : predicates.length ≤ maxFields) :
    (List.range predicates.length).map (ofPredicates path predicates).predicateAt? =
      predicates.map some := by
  apply List.ext_getElem
  · simp
  · intro i hi hi'
    rw [List.length_map] at hi'
    simp only [List.getElem_map, List.getElem_range, predicateAt?_ofPredicates h hi']

theorem predicates_ofPredicates (h : predicates.length ≤ maxFields) :
    (ofPredicates path predicates).predicates = predicates := by
  have hslots : (List.range predicates.length).filterMap (ofPredicates path predicates).predicateAt? =
      ((List.range predicates.length).map (ofPredicates path predicates).predicateAt?).filterMap id := by
    rw [List.filterMap_map, Function.id_comp]
  change (List.range predicates.length).filterMap (ofPredicates path predicates).predicateAt? = _
  rw [hslots, map_predicateAt?_ofPredicates h, List.filterMap_map]
  simp

-- A rule for a path has its kinds of access in the second slot, where they are found and
-- replaced.
theorem setPermissions_ofPredicates {added : List Predicate} (before permissions : UInt32)
    (h : added.length + 2 ≤ maxFields) :
    (ofPredicates path (watchedPath path :: access before :: added)).setPermissions permissions =
      .ok (ofPredicates path (watchedPath path :: access permissions :: added)) := by
  have hposition :
      (ofPredicates path (watchedPath path :: access before :: added)).position? .perm = some 1 := by
    have htake := take_toList_table
      ((watchedPath path :: access before :: added).map (·.field.id)) (by rwa [List.length_map])
    rw [List.length_map] at htake
    rw [position?]
    change List.findIdx? _ ((table _).toList.take (List.length _)) = _
    rw [htake]
    rfl
  have hslot : 1 < ((watchedPath path :: access before :: added).map (·.value)).length := by simp
  have hvalues := table_set _ hslot permissions
  rw [setPermissions, hposition]
  simp only [ofPredicates, hvalues]
  rfl

theorem addField_ofPredicates (h : predicates.length < maxFields) (field : Field)
    (operator : Operator) (value : String) :
    (ofPredicates path predicates).addField accounts field operator value =
      (resolve accounts field value).map fun number =>
        ofPredicates path (predicates ++ [{ field, operator, value := number }]) := by
  have hroom : (ofPredicates path predicates).ensureRoom = .ok () := if_neg (Nat.not_le.mpr h)
  rw [addField, hroom]
  cases resolve accounts field value with
  | error error => rfl
  | ok number => exact congrArg Except.ok (push_ofPredicates path predicates ⟨field, operator, number⟩)

end OfPredicates

end AuditCollector.Rule
