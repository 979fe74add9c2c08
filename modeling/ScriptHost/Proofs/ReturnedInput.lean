import Mathlib.Data.List.TakeWhile
import ScriptHost.Engine.Lua
import ScriptHost.Proofs.SortedNames
import ScriptHost.Proofs.Utf8Texts
import ScriptHost.Script.Admission

/-!
A Lua script that returns its input returns it unchanged. On the way in, lists and objects become
tables, which are told apart by a mark and by their length; on the way out they are read back as
what they were, `null` beside missing values and whole numbers beside floating-point ones included.
-/
namespace ScriptHost

/-- A JSON value whose integers fit a signed 64-bit word. As in every JSON value, floating-point
numbers are finite, and the members of an object stand in the order of their keys. -/
inductive Json.Signed : Json → Prop where
  | null : Signed .null
  | bool (b : Bool) : Signed (.bool b)
  | int {n : Int} (low : -twoTo 63 ≤ n) (high : n < twoTo 63) : Signed (.int n)
  | float {x : Float} (finite : x.isFinite = true) : Signed (.float x)
  | str (s : String) : Signed (.str s)
  | arr {items : List Json} (signed : ∀ item ∈ items, Signed item) : Signed (.arr items)
  | obj {members : List (String × Json)} (sorted : Named.Sorted members)
      (signed : ∀ member ∈ members, Signed member.2) : Signed (.obj members)

namespace Chunk

/-! ### Tables -/

namespace Table

variable {t : Table} {v : Value}

theorem set_text (s : String) : t.set (.text s) v =
    { t with others := setOther (.text s) v t.others } := by
  have free : t.position? (.text s) = none := rfl
  have other : (Value.text s).equal (.int (t.items.size + 1)) = false := rfl
  simp only [set, free, other, Bool.and_false, Bool.false_eq_true, if_false]
  rfl

theorem get_text (s : String) : t.get (.text s) =
    ((t.others.find? fun p => p.1.equal (.text s)).map (·.2)).getD .nil := rfl

theorem equal_text_iff {key : Value} {s : String} :
    key.equal (.text s) = true ↔ key = .text s := by
  cases key <;> simp [Value.equal, Value.text]

theorem text_inj {s other : String} : Value.text s = .text other ↔ s = other := by
  refine ⟨fun same => ?_, congrArg Value.text⟩
  have read : Text.Utf8.text? (bytes s) = some other :=
    Text.Utf8.text?_eq_some_iff.mpr (Value.str.inj same)
  rw [Text.Utf8.text?_eq_some_iff.mpr (rfl : bytes s = _)] at read
  exact Option.some.inj read

theorem setOther_new {key : Value} {pairs : List (Value × Value)} (value : v.isNil = false)
    (new : ∀ p ∈ pairs, p.1.equal key = false) : setOther key v pairs = pairs ++ [(key, v)] := by
  induction pairs with
  | nil => simp only [setOther, value, Bool.false_eq_true, if_false, List.nil_append]
  | cons p pairs ih =>
    obtain ⟨first, rest⟩ := List.forall_mem_cons.mp new
    simp only [setOther, first, Bool.false_eq_true, if_false, ih rest, List.cons_append]

theorem get_set_text_self (s : String) (value : v.isNil = false) :
    (t.set (.text s) v).get (.text s) = v := by
  have found (pairs : List (Value × Value)) :
      (((setOther (.text s) v pairs).find? fun p => p.1.equal (.text s)).map (·.2)) = some v := by
    induction pairs with
    | nil => simp [setOther, value, equal_text_iff]
    | cons p pairs ih =>
      by_cases here : p.1.equal (.text s) = true
      · simp [setOther, here, value]
      · simpa [setOther, here] using ih
  rw [set_text, get_text, found]
  rfl

theorem get_set_text_ne {s other : String} (ne : s ≠ other) (value : v.isNil = false) :
    (t.set (.text s) v).get (.text other) = t.get (.text other) := by
  have apart : (Value.text s).equal (.text other) = false :=
    Bool.eq_false_iff.mpr fun same => ne (text_inj.mp (equal_text_iff.mp same))
  have found (pairs : List (Value × Value)) :
      (setOther (.text s) v pairs).find? (fun p => p.1.equal (.text other)) =
        pairs.find? fun p => p.1.equal (.text other) := by
    induction pairs with
    | nil => simp [setOther, value, apart]
    | cons p pairs ih =>
      by_cases here : p.1.equal (.text s) = true
      · have elsewhere : p.1.equal (.text other) = false := equal_text_iff.mp here ▸ apart
        simp [setOther, here, value, elsewhere]
      · simp only [setOther, here, Bool.false_eq_true, if_false, List.find?_cons, ih]
  rw [set_text, get_text, found, get_text]

theorem set_next (alone : t.others = []) (value : v.isNil = false) :
    t.set (.int (t.items.size + 1)) v = { t with items := t.items.push v } := by
  have outside : ¬ (t.items.size + 1 : Int) ≤ t.items.size := by omega
  have free : t.position? (.int (t.items.size + 1)) = none := by
    simp only [position?, Value.int, Number.int?, outside, decide_false, Bool.and_false,
      Bool.false_eq_true, if_false]
  have next : (Value.int (t.items.size + 1)).equal (.int (t.items.size + 1)) = true :=
    beq_self_eq_true (_ : Int)
  simp only [set, free, value, next, Bool.not_false, Bool.and_true, if_true, alone]
  rfl

end Table

/-! ### The way in -/

structure Heap.Within (h h' : Heap) : Prop where
  size : h.tables.size ≤ h'.tables.size
  same : ∀ id < h.tables.size, h'.table id = h.table id

namespace Heap.Within

theorem refl (h : Heap) : h.Within h := ⟨Nat.le_refl _, fun _ _ => rfl⟩

theorem trans {h h' h'' : Heap} (first : h.Within h') (next : h'.Within h'') : h.Within h'' where
  size := Nat.le_trans first.size next.size
  same id made := (next.same id (Nat.lt_of_lt_of_le made first.size)).trans (first.same id made)

theorem newTable (h : Heap) (t : Table) : h.Within (h.newTable t).2 where
  size := by simp [Heap.newTable]
  same id made := by
    simp [Heap.newTable, Heap.table, Array.getElem?_push_lt made, Array.getElem?_eq_getElem made]

end Heap.Within

theorem Heap.table_newTable (h : Heap) (t : Table) :
    (h.newTable t).2.table (h.newTable t).1 = t := by
  simp [Heap.newTable, Heap.table]

theorem Heap.table_setTable_self (h : Heap) {id : Nat} (made : id < h.tables.size) (t : Table) :
    (h.setTable id t).table id = t := by
  simp [Heap.setTable, Heap.table, made]

theorem Heap.table_setTable_ne (h : Heap) {id other : Nat} (ne : id ≠ other) (t : Table) :
    (h.setTable id t).table other = h.table other := by
  simp [Heap.setTable, Heap.table, ne]

mutual

theorem within_ofJson (h : Heap) : ∀ j, h.Within (Value.ofJson h j).2
  | .null | .bool _ | .int _ | .float _ | .str _ => .refl h
  | .arr items => (within_itemsOfJson h { isList := true } items).trans (.newTable _ _)
  | .obj members => (within_membersOfJson h {} members).trans (.newTable _ _)

theorem within_itemsOfJson (h : Heap) (t : Table) : ∀ items, h.Within (itemsOfJson h t items).2
  | [] => .refl h
  | j :: js => (within_ofJson h j).trans (within_itemsOfJson _ _ js)

theorem within_membersOfJson (h : Heap) (t : Table) :
    ∀ members, h.Within (membersOfJson h t members).2
  | [] => .refl h
  | (_, j) :: ms => (within_ofJson h j).trans (within_membersOfJson _ _ ms)

end

theorem isNil_ofJson (h : Heap) (j : Json) : (Value.ofJson h j).1.isNil = false := by
  cases j with
  | int n =>
    rw [Value.ofJson]
    dsimp only
    split <;> rfl
  | _ => rfl

/-! ### The way out -/

/-- The tables of `h` from number `low` on are the same in the heap `H` and can be read there on a
way that has not come through any of them; no more than `fuel` of them lie within each other. -/
structure Readable (low : Nat) (h H : Heap) (path : List Nat) (fuel : Nat) : Prop where
  same : ∀ id, low ≤ id → id < h.tables.size → H.table id = h.table id
  apart : ∀ id ∈ path, h.tables.size ≤ id
  enough : h.tables.size ≤ fuel

namespace Readable

variable {low : Nat} {h h' H : Heap} {path : List Nat} {fuel : Nat}

theorem before (r : Readable low h' H path fuel) (within : h.Within h') :
    Readable low h H path fuel where
  same id from_ made := (r.same id from_ (Nat.lt_of_lt_of_le made within.size)).trans
    (within.same id made)
  apart id member := Nat.le_trans within.size (r.apart id member)
  enough := Nat.le_trans within.size r.enough

theorem above (r : Readable low h H path fuel) {low' : Nat} (le : low ≤ low') :
    Readable low' h H path fuel :=
  { r with same := fun id high => r.same id (Nat.le_trans le high) }

theorem newTable {t : Table} (r : Readable low (h.newTable t).2 H path fuel)
    (le : low ≤ h.tables.size) :
    path.contains h.tables.size = false ∧ H.table h.tables.size = t ∧
      ∃ n, fuel = n + 1 ∧ Readable low h H (h.tables.size :: path) n := by
  have size : (h.newTable t).2.tables.size = h.tables.size + 1 := Array.size_push ..
  have enough := r.enough
  refine ⟨?_, ?_, fuel - 1, by omega, (r.before (.newTable h t)).same, ?_, by omega⟩
  · rw [Bool.eq_false_iff, ne_eq, List.contains_iff_mem]
    intro member
    have := r.apart _ member
    omega
  · rw [r.same _ le (by omega)]
    exact h.table_newTable t
  · intro id member
    rcases List.mem_cons.mp member with rfl | later
    · exact Nat.le_refl _
    · have := r.apart id later
      omega

end Readable

theorem toJson_list {H : Heap} {path : List Nat} {id fuel : Nat} {items : List Json}
    (new : path.contains id = false) (marked : (H.table id).isList = true)
    (read : (H.table id).sequence.mapM (toJson H fuel (id :: path)) = .ok items) :
    toJson H (fuel + 1) path (.table id) = .ok (.arr items) := by
  simp only [toJson, new, marked, Bool.false_eq_true, if_false, Bool.true_or, if_true, read]
  rfl

theorem toJson_object {H : Heap} {path : List Nat} {id fuel : Nat} {members : List (String × Json)}
    (new : path.contains id = false) (unmarked : (H.table id).isList = false)
    (short : (H.table id).length = 0) (sorted : Named.Sorted members)
    (read : ((H.table id).pairs.zipIdx.mapM fun ((k, w), i) => do
      let key ← keyText (i = 0) k
      return (key, ← toJson H fuel (id :: path) w)) = .ok members) :
    toJson H (fuel + 1) path (.table id) = .ok (.obj members) := by
  rw [← Named.ofList_sorted sorted]
  simp only [toJson, new, unmarked, short, Bool.false_eq_true, if_false, Bool.false_or,
    Nat.lt_irrefl, decide_false]
  exact congrArg (· >>= _) read

def Restored (j : Json) : Prop :=
  ∀ {h H : Heap} {path : List Nat} {fuel : Nat},
    Readable h.tables.size (Value.ofJson h j).2 H path fuel →
      toJson H (fuel + 1) path (Value.ofJson h j).1 = .ok j

theorem restored_items {items : List Json} (each : ∀ item ∈ items, Restored item) (h : Heap)
    (t : Table) (alone : t.others = []) :
    ∃ values : List Value, (∀ v ∈ values, v.isNil = false) ∧
      (itemsOfJson h t items).1 = { t with items := t.items ++ values.toArray } ∧
      ∀ {H : Heap} {path : List Nat} {fuel : Nat},
        Readable h.tables.size (itemsOfJson h t items).2 H path fuel →
          values.mapM (toJson H (fuel + 1) path) = .ok items := by
  induction items generalizing h t with
  | nil => exact ⟨[], by simp, by simp [itemsOfJson], fun _ => rfl⟩
  | cons j js ih =>
    obtain ⟨first, rest⟩ := List.forall_mem_cons.mp each
    have value := isNil_ofJson h j
    have within := within_ofJson h j
    have next := t.set_next alone value
    obtain ⟨values, present, filled, read⟩ := ih rest (Value.ofJson h j).2
      { t with items := t.items.push (Value.ofJson h j).1 } alone
    refine ⟨(Value.ofJson h j).1 :: values, List.forall_mem_cons.mpr ⟨value, present⟩, ?_, ?_⟩
    · simp only [itemsOfJson, next, filled]
      simp
    · intro H path fuel readable
      simp only [itemsOfJson, next] at readable
      rw [List.mapM_cons, first (readable.before (within_itemsOfJson _ _ js)),
        read (readable.above within.size)]
      rfl

theorem restored_members {members : List (String × Json)}
    (each : ∀ member ∈ members, Restored member.2) (h : Heap) (t : Table)
    (distinct : (members.map Prod.fst).Nodup)
    (new : ∀ p ∈ t.others, ∀ k ∈ members.map Prod.fst, p.1 ≠ .text k) :
    ∃ pairs : List (Value × Value),
      (membersOfJson h t members).1 = { t with others := t.others ++ pairs } ∧
      ∀ {H : Heap} {path : List Nat} {fuel : Nat} (n : Nat),
        Readable h.tables.size (membersOfJson h t members).2 H path fuel →
          ((pairs.zipIdx n).mapM fun ((k, w), i) => do
            let key ← keyText (i = 0) k
            return (key, ← toJson H (fuel + 1) path w)) = .ok members := by
  induction members generalizing h t with
  | nil => exact ⟨[], by simp [membersOfJson], fun _ _ => rfl⟩
  | cons member ms ih =>
    obtain ⟨k, j⟩ := member
    obtain ⟨first, rest⟩ := List.forall_mem_cons.mp each
    obtain ⟨once, distinct⟩ := List.nodup_cons.mp distinct
    have value := isNil_ofJson h j
    have within := within_ofJson h j
    have next : t.set (.text k) (Value.ofJson h j).1 =
        { t with others := t.others ++ [(.text k, (Value.ofJson h j).1)] } := by
      rw [Table.set_text, Table.setOther_new value fun p member => ?_]
      rw [Bool.eq_false_iff, ne_eq, Table.equal_text_iff]
      exact new p member k List.mem_cons_self
    obtain ⟨pairs, filled, read⟩ := ih rest (Value.ofJson h j).2
      { t with others := t.others ++ [(.text k, (Value.ofJson h j).1)] } distinct (by
        intro p member other later
        rcases List.mem_append.mp member with old | added
        · exact new p old other (List.mem_cons_of_mem k later)
        · cases List.mem_singleton.mp added
          exact fun same => once (Table.text_inj.mp same ▸ later))
    refine ⟨(.text k, (Value.ofJson h j).1) :: pairs, ?_, ?_⟩
    · simp only [membersOfJson, next, filled, List.append_assoc, List.cons_append, List.nil_append]
    · intro H path fuel n readable
      simp only [membersOfJson, next] at readable
      have key : keyText (n = 0) (.text k) = .ok k := by
        have text : Text.Utf8.text? (bytes k) = some k := Text.Utf8.text?_eq_some_iff.mpr rfl
        simp only [keyText, Value.text, text]
      rw [List.zipIdx_cons, List.mapM_cons, read (n + 1) (readable.above within.size)]
      simp only [key, first (readable.before (within_membersOfJson _ _ ms))]
      rfl

theorem restored_list {items : List Json} (each : ∀ item ∈ items, Restored item) :
    Restored (.arr items) := by
  intro h H path fuel readable
  obtain ⟨values, present, filled, read⟩ := restored_items each h { isList := true } rfl
  obtain ⟨new, table, fuel, rfl, inside⟩ := readable.newTable (within_itemsOfJson h _ items).size
  have sequence : (itemsOfJson h { isList := true } items).1.sequence = values := by
    rw [filled, Table.sequence, Array.toList_append]
    exact List.takeWhile_eq_self_iff.mpr fun v member => by simp [present v member]
  refine toJson_list new (by rw [table, filled]) ?_
  rw [table, sequence]
  exact read inside

theorem restored_object {members : List (String × Json)} (sorted : Named.Sorted members)
    (each : ∀ member ∈ members, Restored member.2) : Restored (.obj members) := by
  intro h H path fuel readable
  obtain ⟨pairs, filled, read⟩ := restored_members each h {} (Named.nodup_names sorted)
    fun _ member => absurd member List.not_mem_nil
  obtain ⟨new, table, fuel, rfl, inside⟩ :=
    readable.newTable (within_membersOfJson h {} members).size
  refine toJson_object new (by rw [table, filled]) (by rw [table, filled]; rfl) sorted ?_
  rw [table, filled]
  exact read 0 inside

/-- What goes in comes out. -/
theorem restored_of_signed {j : Json} (signed : j.Signed) : Restored j := by
  induction signed with
  | null | bool b => exact fun _ => rfl
  | @int n low high =>
    have fits : fitsInt n = true := Bool.and_eq_true_iff.mpr
      ⟨decide_eq_true low, decide_eq_true (Int.le_sub_one_of_lt high)⟩
    intro h H path fuel _
    simp only [Value.ofJson, fits, if_true]
    rfl
  | float finite =>
    intro h H path fuel _
    simp only [Value.ofJson, Value.float, toJson, finite, if_true]
  | str s =>
    have text : Text.Utf8.text? (bytes s) = some s := Text.Utf8.text?_eq_some_iff.mpr rfl
    intro h H path fuel _
    simp only [Value.ofJson, Value.text, toJson, text]
  | arr _ each => exact restored_list each
  | obj sorted _ each => exact restored_object sorted each

/-! ### The run -/

def echo : Func := .mk [] true [.leave [.var (bytes "input") 1]]

theorem loadAny_echo (name : Bytes) : loadAny name (bytes "return input") = .ok echo := by
  with_unfolding_all rfl

def echoed (heap : Heap) : Heap := { heap with closures := heap.closures.push ⟨echo, [], 0⟩ }

namespace State

theorem steps_halted {chunk : Bytes} {s : State} (halted : s.halted = true) (n : Nat) :
    steps chunk n s = s := by
  cases n with
  | zero => rfl
  | succ n => rw [steps, if_pos halted]

theorem steps_add (chunk : Bytes) (n k : Nat) (s : State) :
    steps chunk (n + k) s = steps chunk k (steps chunk n s) := by
  induction n generalizing s with
  | zero => rw [Nat.zero_add, steps]
  | succ n ih =>
    rw [Nat.add_right_comm, steps, steps]
    split
    · exact (steps_halted ‹_› k).symm
    · exact ih _

theorem steps_echo (chunk : Bytes) (heap : Heap) :
    steps chunk 8 (start echo heap) =
      ⟨.halt (.ok [(heap.table Heap.globals).get (.text "input")]), [], echoed heap, [], 0⟩ := by
  have entered : (start echo heap).step chunk =
      ⟨enter [.leave [.var (bytes "input") 1]] ⟨[], 0, []⟩, [.boundary none], echoed heap, [],
        1⟩ := by
    simp only [step, start, Heap.newClosure, apply, Array.getD_eq_getD_getElem?,
      Array.getElem?_push_size, Option.getD_some]
    rfl
  change steps chunk 7 ((start echo heap).step chunk) = _
  rw [entered]
  rfl

end State

theorem run_echo (chunk : Bytes) (heap : Heap) (timeoutMs : Nat) :
    run chunk echo heap timeoutMs =
      ⟨some (.ok [(heap.table Heap.globals).get (.text "input")]), false, echoed heap, []⟩ := by
  have enough : 8 ≤ max State.pause (min mostSteps (timeoutMs * stepsPerMs)) :=
    Nat.le_trans (by decide) (Nat.le_max_left ..)
  obtain ⟨k, budget⟩ := Nat.exists_eq_add_of_le enough
  rw [run, budget, State.steps_add, State.steps_echo, State.steps_halted rfl]
  rfl

end Chunk

namespace Lua

open Chunk (Heap Value)

theorem input_prepare (context : RunContext) :
    ((prepare context).table Heap.globals).get (.text "input") =
      (Value.ofJson Chunk.Library.start context.input).1 := by
  have made : Heap.globals < (Value.ofJson Chunk.Library.start context.input).2.tables.size :=
    Nat.lt_of_lt_of_le (by decide) (Chunk.within_ofJson Chunk.Library.start context.input).size
  rw [prepare, Heap.table_setTable_self _ made, Chunk.Table.get_set_text_ne (by decide) rfl,
    Chunk.Table.get_set_text_ne (by decide) rfl,
    Chunk.Table.get_set_text_self "input" (Chunk.isNil_ofJson _ _)]

theorem toJson_prepare (context : RunContext) (signed : context.input.Signed) :
    (Value.ofJson Chunk.Library.start context.input).1.toJson (Chunk.echoed (prepare context)) =
      .ok context.input := by
  have size : (prepare context).tables.size =
      (Value.ofJson Chunk.Library.start context.input).2.tables.size := Array.size_setIfInBounds ..
  refine Chunk.restored_of_signed signed ⟨fun id own _ => ?_, nofun, ?_⟩
  · have other : Heap.globals ≠ id := Nat.ne_of_lt (Nat.lt_of_lt_of_le (by decide) own)
    exact Heap.table_setTable_ne _ other _
  · exact Nat.le_of_eq size.symm

theorem nameFault?_bytes (s : String) : nameFault? (bytes s) = none ↔ '\x00' ∉ s.toList := by
  rw [nameFault?, Option.map_eq_none_iff, List.findIdx?_eq_none_iff, ← Text.Utf8.zero_mem_bytesOf]
  constructor
  · intro free inside
    exact absurd rfl (of_decide_eq_false (free 0 inside))
  · intro free b inside
    refine decide_eq_false ?_
    rintro rfl
    exact free inside

theorem run_of_fault {source text : String} {context : RunContext}
    (fault : nameFault? (bytes context.script) = some text) :
    run source context =
      .failed (if context.timeoutMs = 0 then .timeout context.timeoutMs else .eval text) := by
  simp only [run, fault, Bool.false_or, decide_eq_true_eq]

/-- A script that returns its input returns it as it is: every `null`, list and object, every key
and every number, at any depth. It does so exactly if its name has no NUL, which ends the name of
a chunk. -/
theorem run_return_input (context : RunContext) (signed : context.input.Signed) :
    run "return input" context = .done ⟨context.input, []⟩ ↔ '\x00' ∉ context.script.toList := by
  rw [← nameFault?_bytes]
  cases named : nameFault? (bytes context.script) with
  | none =>
    simp only [run, named, Chunk.loadAny_echo, Chunk.run_echo, verdict, Option.map_some,
      input_prepare, Chunk.first, List.headD_cons, toJson_prepare context signed]
  | some text =>
    rw [run_of_fault named]
    exact ⟨nofun, nofun⟩

/-- A name with a NUL is admitted, and the source is well formed, as it is checked under another
name. -/
theorem run_return_input_nul :
    let body : Json :=
      .obj [("code", .str "return input"), ("lang", .str "lua"), ("name", .str "a\x00b")]
    let context : RunContext := ⟨"a\x00b", 0, .arr [.int 1, .null], 5000⟩
    Admission.review (fun _ => true) (some body) =
        .ok ⟨context.script, "return input", .lua, none, "return input", none⟩ ∧
      check "return input" = .done () ∧ context.input.Signed ∧
      run "return input" context = .failed (.eval
        "runtime error: invalid name: nul byte found in provided data at position: 1") ∧
      ¬ ∀ context : RunContext, context.input.Signed →
        ∃ logs, run "return input" context = .done ⟨context.input, logs⟩ := by
  intro body context
  have signed : context.input.Signed :=
    .arr (List.forall_mem_cons.mpr
      ⟨.int (by decide) (by decide), List.forall_mem_singleton.mpr .null⟩)
  have failed : run "return input" context = .failed (.eval
      "runtime error: invalid name: nul byte found in provided data at position: 1") :=
    run_of_fault (by decide +kernel)
  refine ⟨by decide +kernel, by with_unfolding_all rfl, signed, failed, fun all => ?_⟩
  obtain ⟨logs, done⟩ := all context signed
  rw [failed] at done
  cases done

theorem run_return_input_nested :
    let input : Json := .obj [
      ("", .arr [.null, .obj [], .arr [], .obj [("", .arr [.null, .null])]]),
      ("1", .arr [.int 1, .float 1, .int (-9223372036854775808), .int 9223372036854775807]),
      ("2", .obj [("1", .float (-0.0)), ("2", .null)])]
    input.Signed ∧ run "return input" ⟨"=\x22", 7, input, 0⟩ = .done ⟨input, []⟩ := by
  intro input
  have nulls : (Json.arr [.null, .null]).Signed :=
    .arr (List.forall_mem_cons.mpr ⟨.null, List.forall_mem_singleton.mpr .null⟩)
  have shapes : (Json.arr [.null, .obj [], .arr [], .obj [("", .arr [.null, .null])]]).Signed := by
    refine .arr ?_
    simp only [List.forall_mem_cons]
    exact ⟨.null, .obj .nil nofun, .arr nofun,
      .obj (List.pairwise_singleton ..) (List.forall_mem_singleton.mpr nulls), nofun⟩
  have numbers : (Json.arr
      [.int 1, .float 1, .int (-9223372036854775808), .int 9223372036854775807]).Signed := by
    refine .arr ?_
    simp only [List.forall_mem_cons]
    exact ⟨.int (by decide) (by decide), .float (by decide +kernel), .int (by decide) (by decide),
      .int (by decide) (by decide), nofun⟩
  have keyed : (Json.obj [("1", .float (-0.0)), ("2", .null)]).Signed := by
    refine .obj (by unfold Named.Sorted; decide +kernel) ?_
    simp only [List.forall_mem_cons]
    exact ⟨.float (by decide +kernel), .null, nofun⟩
  have signed : input.Signed := by
    refine .obj (by unfold Named.Sorted; decide +kernel) ?_
    simp only [List.forall_mem_cons]
    exact ⟨shapes, numbers, keyed, nofun⟩
  exact ⟨signed, (run_return_input ⟨"=\x22", 7, input, 0⟩ signed).mpr (by decide)⟩

end Lua

end ScriptHost
