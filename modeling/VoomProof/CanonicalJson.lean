import Mathlib.Data.List.Nodup
import Mathlib.Data.String.Basic
import VoomProof.Json

/-!
# Canonical JSON

`canonical_json` of `voom-plan` (`hash.rs`) sorts the keys of every object and writes the
value; plans are hashed by that text, without the fields that differ from run to run. The
writer is a parameter: it writes fields in their order, and different values differently.
-/

namespace Json
open List

abbrev Fields := List (String × Json)

/-- The order `sort_keys` gives to fields. -/
def byKey (a b : String × Json) : Bool := a.1 ≤ b.1

mutual

def sortObjectKeys : Json → Json
  | object fields => object ((sortFields fields).mergeSort byKey)
  | array items => array (sortItems items)
  | json => json

def sortItems : List Json → List Json
  | [] => []
  | item :: items => sortObjectKeys item :: sortItems items

def sortFields : Fields → Fields
  | [] => []
  | (key, value) :: fields => (key, sortObjectKeys value) :: sortFields fields

end

/-- In which order a removal leaves the other fields does not count: they are sorted. -/
def stripVolatilePlanFields : Json → Json
  | object fields => object (fields.filter (·.1 ∉ ["plan_id", "plan_hash", "generated_at"]))
  | json => json

variable {Text : Type} (write : Json → Text)

def canonicalJson (json : Json) : Text := write json.sortObjectKeys

/-- What `plan_hash` hashes. -/
def planPreimage (plan : Json) : Text := canonicalJson write plan.stripVolatilePlanFields

/-! ## Values up to the order of keys -/

/-- No object in the value has a key twice. -/
inductive IsMap : Json → Prop where
  | scalar {json : Json} (h : json.asArray = none ∧ json.asObject = none) : IsMap json
  | array {items : List Json} (h : ∀ item ∈ items, IsMap item) : IsMap (.array items)
  | object {fields : Fields} (hkeys : (fields.map (·.1)).Nodup)
      (h : ∀ field ∈ fields, IsMap field.2) : IsMap (.object fields)

/-- The same value but for the order of the fields in its objects, at every depth. -/
inductive Same : Json → Json → Prop where
  | refl (a : Json) : Same a a
  | symm {a b : Json} (h : Same a b) : Same b a
  | trans {a b c : Json} (h : Same a b) (h' : Same b c) : Same a c
  | fields {fields fields' : Fields} (hkeys : (fields.map (·.1)).Nodup)
      (h : fields.Perm fields') : Same (.object fields) (.object fields')
  | item {a b : Json} (front rest : List Json) (h : Same a b) :
      Same (.array (front ++ a :: rest)) (.array (front ++ b :: rest))
  | value {a b : Json} (front rest : Fields) (key : String) (h : Same a b) :
      Same (.object (front ++ (key, a) :: rest)) (.object (front ++ (key, b) :: rest))

variable {write} {a b : Json} {fields fields' : Fields} {items : List Json}

theorem sortItems_eq (items : List Json) : sortItems items = items.map sortObjectKeys := by
  induction items with
  | nil => rfl
  | cons _ _ ih => rw [sortItems, ih, map_cons]

theorem sortFields_eq (fields : Fields) :
    sortFields fields = fields.map fun field => (field.1, field.2.sortObjectKeys) := by
  induction fields with
  | nil => rfl
  | cons _ _ ih => rw [sortFields, ih, map_cons]

theorem keys_sortFields (fields : Fields) : (sortFields fields).map (·.1) = fields.map (·.1) := by
  rw [sortFields_eq, map_map]
  rfl

/-- Fields with distinct keys have one order. -/
theorem mergeSort_eq_of_perm (hkeys : (fields.map (·.1)).Nodup) (h : fields.Perm fields') :
    fields.mergeSort byKey = fields'.mergeSort byKey := by
  have hsort : ∀ l : Fields, (l.mergeSort byKey).Pairwise (byKey · ·) :=
    pairwise_mergeSort (fun a b c => by simpa [byKey] using le_trans)
      (fun a b => by simpa [byKey] using le_total a.1 b.1)
  refine Perm.eq_of_pairwise ?_ (hsort _) (hsort _)
    ((mergeSort_perm _ _).trans (h.trans (mergeSort_perm _ _).symm))
  intro a b ha hb hab hba
  exact inj_on_of_nodup_map hkeys (mem_mergeSort.mp ha) (h.mem_iff.mpr (mem_mergeSort.mp hb))
    (le_antisymm (of_decide_eq_true hab) (of_decide_eq_true hba))

theorem Same.sort_eq (h : a.Same b) : a.sortObjectKeys = b.sortObjectKeys := by
  induction h with
  | refl => rfl
  | symm _ ih => exact ih.symm
  | trans _ _ ih ih' => exact ih.trans ih'
  | fields hkeys h =>
    rw [← keys_sortFields] at hkeys
    simp only [sortObjectKeys, sortFields_eq] at hkeys ⊢
    rw [mergeSort_eq_of_perm hkeys (h.map _)]
  | item _ _ _ ih => simp [sortObjectKeys, sortItems_eq, ih]
  | value _ _ _ _ ih => simp [sortObjectKeys, sortFields_eq, ih]

theorem same_array (h : ∀ item ∈ items, item.Same item.sortObjectKeys) (front : List Json) :
    Same (.array (front ++ items)) (.array (front ++ sortItems items)) := by
  induction items generalizing front with
  | nil => exact .refl _
  | cons item items ih =>
    obtain ⟨hitem, hrest⟩ := forall_mem_cons.mp h
    refine .trans (.item front items hitem) ?_
    rw [sortItems, append_cons, append_cons front _ (sortItems items)]
    exact ih hrest _

theorem same_object (h : ∀ field ∈ fields, field.2.Same field.2.sortObjectKeys) (front : Fields) :
    Same (.object (front ++ fields)) (.object (front ++ sortFields fields)) := by
  induction fields generalizing front with
  | nil => exact .refl _
  | cons field fields ih =>
    obtain ⟨hfield, hrest⟩ := forall_mem_cons.mp h
    refine .trans (.value front fields field.1 hfield) ?_
    rw [sortFields, append_cons, append_cons front _ (sortFields fields)]
    exact ih hrest _

theorem IsMap.same_sort (h : a.IsMap) : a.Same a.sortObjectKeys := by
  induction h with
  | @scalar a h =>
    cases a with
    | array => cases h.1
    | object => cases h.2
    | _ => exact .refl _
  | array _ ih => exact same_array ih []
  | @object fields hkeys _ ih =>
    refine .trans (same_object ih []) ?_
    rw [← keys_sortFields] at hkeys
    exact .fields hkeys (mergeSort_perm _ _).symm

theorem IsMap.strip (h : a.IsMap) : a.stripVolatilePlanFields.IsMap := by
  cases h with
  | @scalar a h =>
    cases a with
    | object => cases h.2
    | _ => exact .scalar h
  | array h => exact .array h
  | object hkeys h =>
    exact .object (hkeys.sublist (filter_sublist.map _)) fun field hfield =>
      h field (mem_of_mem_filter hfield)

theorem sort_eq_iff (ha : a.IsMap) (hb : b.IsMap) :
    a.sortObjectKeys = b.sortObjectKeys ↔ a.Same b :=
  ⟨fun h => .trans ha.same_sort (h ▸ .symm hb.same_sort), Same.sort_eq⟩

end Json
