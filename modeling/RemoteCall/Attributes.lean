/-
Tables of named values.

Attributes of a call, attachments of a reply, metadata of an instance and the
entries of a context are all tables from names to text. Two tables are equal
exactly when every name has the same value in both, and the names come in
ascending order whenever a table is listed.
-/
import Std.Data.ExtTreeMap
import RemoteCall.Json.Basic

namespace RemoteCall

/-- A table from names to values. -/
abbrev Table (α : Type) := Std.ExtTreeMap String α

/-- Named texts that travel with a message. -/
abbrev Attributes := Table String

namespace Table

variable {α : Type}

/-- Keys that compare equal are equal. -/
theorem getElem?_insert_eq (table : Table α) (name key : String) (value : α) :
    (table.insert name value)[key]? = if key = name then some value else table[key]? := by
  simp only [Std.ExtTreeMap.getElem?_insert, Std.LawfulEqCmp.compare_eq_iff_eq, @eq_comm _ name]

theorem getElem?_erase_eq (table : Table α) (name key : String) :
    (table.erase name)[key]? = if key = name then none else table[key]? := by
  simp only [Std.ExtTreeMap.getElem?_erase, Std.LawfulEqCmp.compare_eq_iff_eq, @eq_comm _ name]

end Table

namespace Attributes

/-- The entries of `added` over those of `base`. -/
def extend (base added : Attributes) : Attributes :=
  added.foldl (fun table name value => table.insert name value) base

/-- An added entry wins over one of the base. -/
theorem getElem?_extend (base added : Attributes) (name : String) :
    (base.extend added)[name]? = (added[name]?).or base[name]? := by
  have hinsert : base.extend added = base.insertMany added.toList := by
    rw [extend, Std.ExtTreeMap.foldl_eq_foldl_toList, Std.ExtTreeMap.insertMany_list_eq_foldl]
  rw [hinsert]
  cases h : added[name]? with
  | some value =>
    exact Std.ExtTreeMap.getElem?_insertMany_list_of_mem Std.ReflCmp.compare_self
      Std.ExtTreeMap.distinct_keys_toList (Std.ExtTreeMap.mem_toList_iff_getElem?_eq_some.mpr h)
  | none =>
    refine Std.ExtTreeMap.getElem?_insertMany_list_of_contains_eq_false ?_
    rw [Std.ExtTreeMap.map_fst_toList_eq_keys]
    simpa using h

theorem extend_empty (added : Attributes) : extend ∅ added = added := by
  refine Std.ExtTreeMap.ext_getElem? fun name => ?_
  rw [getElem?_extend]
  simp

/-- The table as an untyped object. -/
def toJson (table : Attributes) : Json :=
  .obj (table.toList.map fun (name, value) => (name, .str value))

end Attributes

end RemoteCall
