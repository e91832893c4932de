import Aise.Lib.Json
import Aise.Lib.OrdMap
import Aise.Lib.Result
import Mathlib.Algebra.Group.Int.Defs
import Mathlib.Data.List.Basic

/-! Values that are written to JSON and read back. A codec says which values it can read back, and
every value it reads is one of them; texts and JSON values are taken for each other. Records are
written field by field, and are read by the names of their fields or by their order. -/
namespace SerdeJson
open Std

structure Codec (α : Type) where
  encode : α → Json
  decode : Json → Option α
  Readable : α → Prop
  back : ∀ {value}, Readable value → decode (encode value) = some value
  sound : ∀ {json value}, decode json = some value → Readable value

namespace Codec
variable {α β : Type}

/-! ### Scalars -/

def string : Codec String where
  encode := .str
  decode
    | .str text => some text
    | _ => none
  Readable _ := True
  back _ := rfl
  sound _ := trivial

/-- An integer type, by its values. -/
def int (value : α → Int) (read : Int → Option α) (back : ∀ number, read (value number) = some number) :
    Codec α where
  encode number := .num (value number)
  decode
    | .num number => read number
    | _ => none
  Readable _ := True
  back _ := back _
  sound _ := trivial

/-- A text that is checked when it is read. -/
def text (value : α → String) (read : String → Option α) (Readable : α → Prop)
    (back : ∀ item, Readable item → read (value item) = some item)
    (sound : ∀ string item, read string = some item → Readable item) : Codec α where
  encode item := .str (value item)
  decode
    | .str string => read string
    | _ => none
  Readable := Readable
  back readable := back _ readable
  sound {json value} read := by
    split at read
    · exact sound _ _ read
    · cases read

/-- The same codec for a type of the same shape. -/
def imap (codec : Codec α) (make : α → β) (parts : β → α) (inverse : ∀ value, make (parts value) = value)
    (parted : ∀ value, parts (make value) = value) : Codec β where
  encode value := codec.encode (parts value)
  decode json := (codec.decode json).map make
  Readable value := codec.Readable (parts value)
  back {value} readable := by rw [codec.back readable, Option.map_some, inverse]
  sound {json value} read := by
    obtain ⟨found, decoded, rfl⟩ := Option.map_eq_some_iff.mp read
    rw [parted]
    exact codec.sound decoded

/-! ### Options, lists and maps -/

/-- An `Option` is `null` or its value, which is never `null` itself. -/
def option (codec : Codec α) (solid : ∀ value, codec.encode value ≠ .null) : Codec (Option α) where
  encode
    | none => .null
    | some value => codec.encode value
  decode
    | .null => some none
    | json => (codec.decode json).map some
  Readable value := ∀ item ∈ value, codec.Readable item
  back {value} readable := by
    cases value with
    | none => rfl
    | some item =>
      have read := codec.back (readable item rfl)
      have written := solid item
      dsimp only
      split
      · contradiction
      · rw [read]
        rfl
  sound {json value} read := by
    split at read
    · cases read
      exact fun item member => absurd member (Option.not_mem_none item)
    · obtain ⟨item, decoded, rfl⟩ := Option.map_eq_some_iff.mp read
      intro other member
      obtain rfl := Option.mem_some_iff.mp member
      exact codec.sound decoded

theorem none_readable (codec : Codec α) : ∀ value ∈ (none : Option α), codec.Readable value :=
  fun value member => absurd member (Option.not_mem_none value)

theorem mapM_back {write : α → β} {read : β → Option α} {items : List α}
    (back : ∀ item ∈ items, read (write item) = some item) :
    (items.map write).mapM read = some items := by
  induction items with
  | nil => rfl
  | cons item items ih =>
    obtain ⟨here, later⟩ := List.forall_mem_cons.mp back
    rw [List.map_cons, List.mapM_cons, here, ih later]
    rfl

theorem forall₂_of_mapM {read : β → Option α} {sources : List β} {items : List α}
    (decoded : sources.mapM read = some items) :
    List.Forall₂ (fun source item => read source = some item) sources items := by
  induction sources generalizing items with
  | nil =>
    cases decoded
    exact .nil
  | cons source sources ih =>
    rw [List.mapM_cons] at decoded
    obtain ⟨first, here, decoded⟩ := Option.bind_eq_some_iff.mp decoded
    obtain ⟨rest, later, decoded⟩ := Option.bind_eq_some_iff.mp decoded
    cases decoded
    exact .cons here (ih later)

theorem mem_of_mapM {read : β → Option α} {sources : List β} {items : List α}
    (decoded : sources.mapM read = some items) {item : α} (member : item ∈ items) :
    ∃ source ∈ sources, read source = some item := by
  induction sources generalizing items with
  | nil =>
    cases decoded
    cases member
  | cons source sources ih =>
    rw [List.mapM_cons] at decoded
    obtain ⟨first, here, decoded⟩ := Option.bind_eq_some_iff.mp decoded
    obtain ⟨rest, later, decoded⟩ := Option.bind_eq_some_iff.mp decoded
    cases decoded
    rcases List.mem_cons.mp member with rfl | member
    · exact ⟨source, List.mem_cons_self, here⟩
    · obtain ⟨other, among, found⟩ := ih later member
      exact ⟨other, List.mem_cons_of_mem _ among, found⟩

def list (codec : Codec α) : Codec (List α) where
  encode items := .arr (items.map codec.encode)
  decode
    | .arr items => items.mapM codec.decode
    | _ => none
  Readable items := ∀ item ∈ items, codec.Readable item
  back {items} readable := mapM_back fun item member => codec.back (readable item member)
  sound {json items} read := by
    split at read
    · intro item member
      obtain ⟨source, _, found⟩ := mem_of_mapM read member
      exact codec.sound found
    · cases read

end Codec

/-- Keys of a map, which are written as texts. -/
structure KeyCodec (K : Type) where
  text : K → String
  read : String → Option K
  Readable : K → Prop
  back : ∀ {key}, Readable key → read (text key) = some key
  sound : ∀ {string key}, read string = some key → Readable key

section
variable {K V : Type} [Ord K] [TransOrd K] [LawfulEqOrd K]

def insertEntries (entries : List (K × V)) (map : ExtTreeMap K V) : ExtTreeMap K V :=
  entries.foldl (fun map entry => map.insert entry.1 entry.2) map

theorem mem_of_insertEntries {entries : List (K × V)} {map : ExtTreeMap K V} {key : K} {value : V}
    (found : (insertEntries entries map)[key]? = some value) :
    (key, value) ∈ entries ∨ map[key]? = some value := by
  classical
  induction entries generalizing map with
  | nil => exact .inr found
  | cons entry entries ih =>
    rcases ih found with later | before
    · exact .inl (List.mem_cons_of_mem _ later)
    · rw [OrdMap.get_insert] at before
      split at before
      · rename_i same
        cases before
        cases same
        exact .inl List.mem_cons_self
      · exact .inr before

theorem insertEntries_of_not_mem {entries : List (K × V)} {map : ExtTreeMap K V} {key : K}
    (absent : key ∉ entries.map Prod.fst) : (insertEntries entries map)[key]? = map[key]? := by
  classical
  induction entries generalizing map with
  | nil => rfl
  | cons entry entries ih =>
    rw [List.map_cons, List.mem_cons, not_or] at absent
    have later : (insertEntries entries (map.insert entry.1 entry.2))[key]? =
        (map.insert entry.1 entry.2)[key]? := ih absent.2
    rw [OrdMap.get_insert, if_neg (Ne.symm absent.1)] at later
    exact later

theorem insertEntries_of_mem {entries : List (K × V)} {map : ExtTreeMap K V} {key : K} {value : V}
    (distinct : (entries.map Prod.fst).Nodup) (member : (key, value) ∈ entries) :
    (insertEntries entries map)[key]? = some value := by
  classical
  induction entries generalizing map with
  | nil => cases member
  | cons entry entries ih =>
    rw [List.map_cons, List.nodup_cons] at distinct
    rcases List.mem_cons.mp member with rfl | later
    · have same : (insertEntries entries (map.insert key value))[key]? =
          (map.insert key value)[key]? := insertEntries_of_not_mem distinct.1
      rw [OrdMap.get_insert, if_pos rfl] at same
      exact same
    · exact ih distinct.2 later

/-- The entries of a map make up the map. -/
theorem insertEntries_toList (map : ExtTreeMap K V) : insertEntries map.toList ∅ = map := by
  apply ExtTreeMap.ext_getElem?
  intro key
  have distinct : (map.toList.map Prod.fst).Nodup := by
    rw [ExtTreeMap.map_fst_toList_eq_keys]
    exact ExtTreeMap.nodup_keys
  cases found : map[key]? with
  | none =>
    rw [insertEntries_of_not_mem]
    · exact ExtTreeMap.getElem?_empty
    · rw [ExtTreeMap.map_fst_toList_eq_keys, ExtTreeMap.mem_keys,
        ExtTreeMap.mem_iff_isSome_getElem?, found]
      exact Bool.false_ne_true
  | some value =>
    exact insertEntries_of_mem distinct (ExtTreeMap.mem_toList_iff_getElem?_eq_some.mpr found)

/-- A `BTreeMap`: an object with the keys in their order, of which the last one counts. -/
def Codec.map (key : KeyCodec K) (codec : Codec V) : Codec (ExtTreeMap K V) where
  encode map := .obj (map.toList.map fun entry => (key.text entry.1, codec.encode entry.2))
  decode
    | .obj fields => (fields.mapM fun (field : String × Json) => do
        return (← key.read field.1, ← codec.decode field.2)).map (insertEntries · ∅)
    | _ => none
  Readable map := ∀ entry ∈ map.toList, key.Readable entry.1 ∧ codec.Readable entry.2
  back {map} readable := by
    dsimp only
    rw [Codec.mapM_back]
    · rw [Option.map_some, insertEntries_toList]
    · intro entry member
      obtain ⟨named, held⟩ := readable entry member
      simp only [key.back named, codec.back held]
      rfl
  sound {json map} read := by
    split at read
    · obtain ⟨entries, decoded, rfl⟩ := Option.map_eq_some_iff.mp read
      intro entry member
      have found := ExtTreeMap.mem_toList_iff_getElem?_eq_some.mp member
      rcases mem_of_insertEntries found with among | before
      · obtain ⟨field, _, parsed⟩ := Codec.mem_of_mapM decoded among
        obtain ⟨name, named, parsed⟩ := Option.bind_eq_some_iff.mp parsed
        obtain ⟨value, held, parsed⟩ := Option.bind_eq_some_iff.mp parsed
        cases parsed
        exact ⟨key.sound named, codec.sound held⟩
      · rw [ExtTreeMap.getElem?_empty] at before
        cases before
    · cases read

/-- A map takes no fewer bytes than it has entries. -/
theorem Codec.size_le_size_map (key : KeyCodec K) (codec : Codec V) (map : ExtTreeMap K V) :
    map.size ≤ size ((Codec.map key codec).encode map).pieces := by
  have fields := length_le_size_obj (map.toList.map fun entry => (key.text entry.1, codec.encode entry.2))
  rwa [List.length_map, ExtTreeMap.length_toList] at fields

/-- A map that is written and read is the same but for what its values are read as. -/
theorem Codec.get_map_back {key : KeyCodec K} {codec : Codec V} {map back : ExtTreeMap K V}
    (named : ∀ entry ∈ map.toList, key.Readable entry.1)
    (read : (Codec.map key codec).decode ((Codec.map key codec).encode map) = some back) (name : K) :
    (∀ value, map[name]? = some value →
      ∃ other, codec.decode (codec.encode value) = some other ∧ back[name]? = some other) ∧
    (map[name]? = none → back[name]? = none) := by
  obtain ⟨entries, decoded, rfl⟩ := Option.map_eq_some_iff.mp read
  have related : List.Forall₂ (fun (entry other : K × V) => other.1 = entry.1 ∧
      codec.decode (codec.encode entry.2) = some other.2) map.toList entries := by
    have each := List.forall₂_map_left_iff.mp (Codec.forall₂_of_mapM decoded)
    refine ((List.forall₂_and_left _ _).mpr ⟨named, each⟩).imp ?_
    rintro entry other ⟨readable, parsed⟩
    obtain ⟨first, held, parsed⟩ := Option.bind_eq_some_iff.mp parsed
    obtain ⟨second, value, parsed⟩ := Option.bind_eq_some_iff.mp parsed
    cases parsed
    exact ⟨Option.some.inj (held.symm.trans (key.back readable)), value⟩
  have names : entries.map Prod.fst = map.toList.map Prod.fst := by
    rw [← List.forall₂_eq_eq_eq, List.forall₂_map_left_iff, List.forall₂_map_right_iff]
    exact related.flip.imp fun _ _ same => same.1
  rw [ExtTreeMap.map_fst_toList_eq_keys] at names
  constructor
  · intro value found
    have among := ExtTreeMap.mem_toList_iff_getElem?_eq_some.mpr found
    obtain ⟨⟨name, other⟩, member, rfl, parsed⟩ := Result.exists_of_forall₂ related.flip among
    refine ⟨other, parsed, insertEntries_of_mem ?_ member⟩
    rw [names]
    exact ExtTreeMap.nodup_keys
  · intro absent
    rw [insertEntries_of_not_mem]
    · exact ExtTreeMap.getElem?_empty
    · rw [names, ExtTreeMap.mem_keys, ExtTreeMap.mem_iff_isSome_getElem?, absent]
      exact Bool.false_ne_true

theorem Codec.mem_map_back {key : KeyCodec K} {codec : Codec V} {map back : ExtTreeMap K V}
    (named : ∀ entry ∈ map.toList, key.Readable entry.1)
    (read : (Codec.map key codec).decode ((Codec.map key codec).encode map) = some back) (name : K) :
    name ∈ back ↔ name ∈ map := by
  obtain ⟨present, absent⟩ := Codec.get_map_back named read name
  rw [ExtTreeMap.mem_iff_isSome_getElem?, ExtTreeMap.mem_iff_isSome_getElem?]
  cases found : map[name]? with
  | none => rw [absent found]
  | some value =>
    obtain ⟨other, _, stored⟩ := present value found
    rw [stored]
    exact Iff.rfl

end

/-! ### Records -/

/-- The fields of a record. A field that is not there is `none`. -/
structure Fields (α : Type) where
  names : List String
  encode : α → List Json
  decode : List (Option Json) → Option α
  Readable : α → Prop
  sized : ∀ value, (encode value).length = names.length
  back : ∀ {value}, Readable value → decode ((encode value).map some) = some value
  sound : ∀ {values value}, decode values = some value → Readable value

namespace Fields
variable {α β : Type}

def nil : Fields Unit where
  names := []
  encode _ := []
  decode
    | [] => some ⟨⟩
    | _ :: _ => none
  Readable _ := True
  sized _ := rfl
  back _ := rfl
  sound _ := trivial

/-- A field and those behind it. What stands for a missing field can be read back, too. -/
def cons (name : String) (codec : Codec α) (missing : Option { value : α // codec.Readable value })
    (rest : Fields β) : Fields (α × β) where
  names := name :: rest.names
  encode value := codec.encode value.1 :: rest.encode value.2
  decode
    | [] => none
    | value :: values => do
      return (← value.elim (missing.map Subtype.val) codec.decode, ← rest.decode values)
  Readable value := codec.Readable value.1 ∧ rest.Readable value.2
  sized value := congrArg Nat.succ (rest.sized value.2)
  back readable := by
    rw [List.map_cons]
    dsimp only [Option.elim_some]
    rw [codec.back readable.1, rest.back readable.2]
    rfl
  sound {values value} read := by
    cases values with
    | nil => cases read
    | cons first values =>
      dsimp only at read
      obtain ⟨item, here, read⟩ := Option.bind_eq_some_iff.mp read
      obtain ⟨others, later, read⟩ := Option.bind_eq_some_iff.mp read
      cases read
      refine ⟨?_, rest.sound later⟩
      cases first with
      | some json => exact codec.sound here
      | none =>
        obtain ⟨default, _, rfl⟩ := Option.map_eq_some_iff.mp here
        exact default.2

/-- What is found under each name of a JSON value, if it has no other and no repeated names. A
sequence gives its values to the fields in their order, and has to reach the last one that is
`needed`. -/
def find (names : List String) (needed : Nat) : Json → Option (List (Option Json))
  | .obj fields =>
    if (fields.map Prod.fst).Nodup ∧ ∀ field ∈ fields, field.1 ∈ names then
      some (names.map fun name => fields.lookup name)
    else none
  | .arr items =>
    if needed ≤ items.length ∧ items.length ≤ names.length then
      some (items.map some ++ List.replicate (names.length - items.length) none)
    else none
  | _ => none

theorem lookup_zip {names : List String} {values : List Json} (distinct : names.Nodup)
    (sized : values.length = names.length) :
    names.map (fun name => (names.zip values).lookup name) = values.map some := by
  induction names generalizing values with
  | nil =>
    rw [List.length_eq_zero_iff.mp sized]
    rfl
  | cons name names ih =>
    cases values with
    | nil => cases sized
    | cons value values =>
      obtain ⟨fresh, distinct⟩ := List.nodup_cons.mp distinct
      rw [List.map_cons, List.zip_cons_cons, List.lookup_cons_self, List.map_cons,
        ← ih distinct (Nat.succ.inj sized)]
      congr 1
      refine List.map_congr_left fun other member => ?_
      have different : (other == name) = false := by
        rw [beq_eq_false_iff_ne]
        rintro rfl
        exact fresh member
      rw [List.lookup_cons, different]

theorem find_zip {names : List String} {values : List Json} {needed : Nat} (distinct : names.Nodup)
    (sized : values.length = names.length) :
    find names needed (.obj (names.zip values)) = some (values.map some) := by
  have named : (names.zip values).map Prod.fst = names :=
    List.map_fst_zip (Nat.le_of_eq sized.symm)
  have known : ∀ field ∈ names.zip values, field.1 ∈ names := fun field member =>
    (List.of_mem_zip member).1
  rw [find, if_pos ⟨by rw [named]; exact distinct, known⟩, lookup_zip distinct sized]

/-- The codec of a record with these fields. -/
def codec (fields : Fields α) (needed : Nat) (distinct : fields.names.Nodup) : Codec α where
  encode value := .obj (fields.names.zip (fields.encode value))
  decode json := (find fields.names needed json).bind fields.decode
  Readable := fields.Readable
  back readable := by
    rw [find_zip distinct (fields.sized _)]
    exact fields.back readable
  sound read := by
    obtain ⟨values, _, decoded⟩ := Option.bind_eq_some_iff.mp read
    exact fields.sound decoded

end Fields

/-- Reads a record that may have other fields, too. -/
def Fields.lenient {α : Type} (fields : Fields α) (needed : Nat) : Json → Option α
  | .obj entries => (Fields.find fields.names needed
      (.obj (entries.filter fun entry => entry.1 ∈ fields.names))).bind fields.decode
  | json => (Fields.find fields.names needed json).bind fields.decode

theorem Fields.lenient_zip {α : Type} {fields : Fields α} {needed : Nat} {values : List Json}
    (distinct : fields.names.Nodup) (sized : values.length = fields.names.length) :
    fields.lenient needed (.obj (fields.names.zip values)) = fields.decode (values.map some) := by
  have known : (fields.names.zip values).filter (fun entry => entry.1 ∈ fields.names) =
      fields.names.zip values :=
    List.filter_eq_self.mpr fun entry member => by simpa using (List.of_mem_zip member).1
  rw [Fields.lenient, known, Fields.find_zip distinct sized, Option.bind_some]

/-- The codec of a record that is read with other fields, too. -/
def Fields.openCodec {α : Type} (fields : Fields α) (needed : Nat) (distinct : fields.names.Nodup) :
    Codec α where
  encode value := .obj (fields.names.zip (fields.encode value))
  decode := fields.lenient needed
  Readable := fields.Readable
  back {value} readable := by
    rw [Fields.lenient_zip distinct (fields.sized value)]
    exact fields.back readable
  sound {json value} read := by
    unfold Fields.lenient at read
    split at read
    · obtain ⟨values, _, decoded⟩ := Option.bind_eq_some_iff.mp read
      exact fields.sound decoded
    · obtain ⟨values, _, decoded⟩ := Option.bind_eq_some_iff.mp read
      exact fields.sound decoded

/-! ### What a written value is read as -/

/-- The second value is read where the first one was written. -/
def Codec.ReadsAs {α : Type} (codec : Codec α) (value other : α) : Prop :=
  codec.decode (codec.encode value) = some other

def Fields.ReadsAs {α : Type} (fields : Fields α) (value other : α) : Prop :=
  fields.decode ((fields.encode value).map some) = some other

section
variable {α β : Type}

theorem Fields.readsAs_cons {name : String} {codec : Codec α}
    {missing : Option { value : α // codec.Readable value }} {rest : Fields β} {value other : α × β} :
    (Fields.cons name codec missing rest).ReadsAs value other ↔
      codec.ReadsAs value.1 other.1 ∧ rest.ReadsAs value.2 other.2 := by
  unfold Fields.ReadsAs Codec.ReadsAs Fields.cons
  simp only [List.map_cons, Option.elim_some, bind, pure, Option.bind_eq_some_iff, Option.some.injEq]
  constructor
  · rintro ⟨first, here, second, later, rfl⟩
    exact ⟨here, later⟩
  · rintro ⟨here, later⟩
    exact ⟨other.1, here, other.2, later, rfl⟩

theorem Fields.readsAs_codec {fields : Fields α} {needed : Nat} {distinct : fields.names.Nodup}
    {value other : α} : (fields.codec needed distinct).ReadsAs value other ↔ fields.ReadsAs value other := by
  unfold Codec.ReadsAs Fields.codec
  dsimp only
  rw [Fields.find_zip distinct (fields.sized value), Option.bind_some]
  exact Iff.rfl

theorem Fields.readsAs_openCodec {fields : Fields α} {needed : Nat} {distinct : fields.names.Nodup}
    {value other : α} :
    (fields.openCodec needed distinct).ReadsAs value other ↔ fields.ReadsAs value other := by
  unfold Codec.ReadsAs Fields.openCodec
  dsimp only
  rw [Fields.lenient_zip distinct (fields.sized value)]
  exact Iff.rfl

theorem Codec.readsAs_imap {codec : Codec α} {make : α → β} {parts : β → α}
    {inverse : ∀ value, make (parts value) = value} {parted : ∀ value, parts (make value) = value}
    {value other : β} :
    (codec.imap make parts inverse parted).ReadsAs value other ↔
      codec.ReadsAs (parts value) (parts other) := by
  unfold Codec.ReadsAs Codec.imap
  dsimp only
  rw [Option.map_eq_some_iff]
  constructor
  · rintro ⟨found, read, rfl⟩
    rw [parted]
    exact read
  · exact fun read => ⟨parts other, read, inverse other⟩

theorem Codec.readsAs_option {codec : Codec α} {solid : ∀ value, codec.encode value ≠ .null} {item : α}
    {other : Option α} (read : (Codec.option codec solid).ReadsAs (some item) other) :
    ∃ found, other = some found ∧ codec.ReadsAs item found := by
  have written := solid item
  unfold Codec.ReadsAs Codec.option at read
  dsimp only at read
  split at read
  · contradiction
  · obtain ⟨found, decoded, rfl⟩ := Option.map_eq_some_iff.mp read
    exact ⟨found, rfl, decoded⟩

end

/-! ### Enums -/

/-- A unit variant is written as its name, and is also read as an object that gives it nothing. -/
def Codec.unit {α : Type} (name : α → String) (read : String → Option α)
    (back : ∀ value, read (name value) = some value) : Codec α where
  encode value := .str (name value)
  decode
    | .str text | .obj [(text, .null)] => read text
    | _ => none
  Readable _ := True
  back _ := back _
  sound _ := trivial

/-- An externally tagged enum of two variants with contents. -/
def Codec.either {α β : Type} (first : String) (left : Codec α) (second : String) (right : Codec β)
    (differ : second ≠ first) : Codec (α ⊕ β) where
  encode
    | .inl value => .obj [(first, left.encode value)]
    | .inr value => .obj [(second, right.encode value)]
  decode
    | .obj [(name, content)] =>
      if name = first then (left.decode content).map .inl
      else if name = second then (right.decode content).map .inr
      else none
    | _ => none
  Readable
    | .inl value => left.Readable value
    | .inr value => right.Readable value
  back {value} readable := by
    cases value with
    | inl value => simp [left.back readable]
    | inr value => simp [differ, right.back readable]
  sound {json value} read := by
    split at read
    · split at read
      · obtain ⟨found, decoded, rfl⟩ := Option.map_eq_some_iff.mp read
        exact left.sound decoded
      · split at read
        · obtain ⟨found, decoded, rfl⟩ := Option.map_eq_some_iff.mp read
          exact right.sound decoded
        · cases read
    · cases read

theorem Codec.readsAs_either {α β : Type} {first : String} {left : Codec α} {second : String}
    {right : Codec β} {differ : second ≠ first} {value : α} {other : α ⊕ β}
    (read : (Codec.either first left second right differ).ReadsAs (.inl value) other) :
    ∃ found, other = .inl found ∧ left.ReadsAs value found := by
  unfold Codec.ReadsAs Codec.either at read
  dsimp only at read
  rw [if_pos rfl] at read
  obtain ⟨found, decoded, rfl⟩ := Option.map_eq_some_iff.mp read
  exact ⟨found, rfl, decoded⟩

/-- The variant of an internally tagged enum, with what is left for it. -/
def untag (tag : String) : Json → Option (String × Json)
  | .obj fields =>
    match fields.filter fun field => field.1 = tag with
    | [(_, .str name)] => some (name, .obj (fields.filter fun field => field.1 ≠ tag))
    | _ => none
  | .arr (.str name :: rest) => some (name, .arr rest)
  | _ => none

theorem untag_cons {tag name : String} {fields : List (String × Json)}
    (apart : tag ∉ fields.map Prod.fst) :
    untag tag (.obj ((tag, .str name) :: fields)) = some (name, .obj fields) := by
  have others : ∀ field ∈ fields, field.1 ≠ tag := by
    rintro field member rfl
    exact apart (List.mem_map_of_mem member)
  have tagged : fields.filter (fun field => decide (field.1 = tag)) = [] :=
    List.filter_eq_nil_iff.mpr fun field member => by simpa using others field member
  have untagged : fields.filter (fun field => decide (field.1 ≠ tag)) = fields :=
    List.filter_eq_self.mpr fun field member => by simpa using others field member
  simp only [untag, List.filter_cons, decide_true, if_true, tagged, ne_eq, not_true_eq_false,
    decide_false, Bool.false_eq_true, if_false]
  rw [untagged]

/-- A variant of an internally tagged enum. -/
structure Variant (tag : String) (α : Type) where
  name : String
  fields : Fields α
  needed : Nat
  distinct : fields.names.Nodup
  apart : tag ∉ fields.names

namespace Variant
variable {tag : String} {α β : Type}

def codec (variant : Variant tag α) : Codec α := variant.fields.codec variant.needed variant.distinct

def encode (variant : Variant tag α) (value : α) : Json :=
  .obj ((tag, .str variant.name) :: variant.fields.names.zip (variant.fields.encode value))

theorem untag_encode (variant : Variant tag α) (value : α) :
    untag tag (variant.encode value) = some (variant.name, variant.codec.encode value) := by
  refine untag_cons ?_
  rw [List.map_fst_zip (Nat.le_of_eq (variant.fields.sized value).symm)]
  exact variant.apart

/-- An internally tagged enum of two variants. -/
def either (first : Variant tag α) (second : Variant tag β) (differ : second.name ≠ first.name) :
    Codec (α ⊕ β) where
  encode
    | .inl value => first.encode value
    | .inr value => second.encode value
  decode json := do
    let (name, content) ← untag tag json
    if name = first.name then (first.codec.decode content).map .inl
    else if name = second.name then (second.codec.decode content).map .inr
    else none
  Readable
    | .inl value => first.codec.Readable value
    | .inr value => second.codec.Readable value
  back {value} readable := by
    cases value with
    | inl value =>
      dsimp only
      rw [untag_encode]
      simp [first.codec.back readable]
    | inr value =>
      dsimp only
      rw [untag_encode]
      simp [differ, second.codec.back readable]
  sound {json value} read := by
    obtain ⟨⟨name, content⟩, _, read⟩ := Option.bind_eq_some_iff.mp read
    dsimp only at read
    split at read
    · obtain ⟨found, decoded, rfl⟩ := Option.map_eq_some_iff.mp read
      exact first.codec.sound decoded
    · split at read
      · obtain ⟨found, decoded, rfl⟩ := Option.map_eq_some_iff.mp read
        exact second.codec.sound decoded
      · cases read

end Variant

/-- The variants of an internally tagged enum, with what is written behind the tag of each. -/
structure Variants (tag : String) (α : Type) where
  name : α → String
  content : α → List (String × Json)
  read : String → Json → Option α
  Readable : α → Prop
  apart : ∀ value, tag ∉ (content value).map Prod.fst
  back : ∀ {value}, Readable value → read (name value) (.obj (content value)) = some value
  sound : ∀ {text json value}, read text json = some value → Readable value ∧ text = name value

namespace Variants
variable {tag : String} {α β : Type}

/-- A variant without contents is read whatever other fields there are, but of no other items. -/
def unit (name : String) : Variants tag Unit where
  name _ := name
  content _ := []
  read text
    | .obj _ | .arr [] => if text = name then some ⟨⟩ else none
    | _ => none
  Readable _ := True
  apart _ := List.not_mem_nil
  back _ := if_pos rfl
  sound {text json value} read := by
    refine ⟨trivial, ?_⟩
    by_contra other
    split at read
    · rw [if_neg other] at read
      cases read
    · rw [if_neg other] at read
      cases read
    · cases read

def one (variant : Variant tag α) : Variants tag α where
  name _ := variant.name
  content value := variant.fields.names.zip (variant.fields.encode value)
  read text json := if text = variant.name then variant.codec.decode json else none
  Readable := variant.codec.Readable
  apart value := by
    rw [List.map_fst_zip (Nat.le_of_eq (variant.fields.sized value).symm)]
    exact variant.apart
  back readable := by
    rw [if_pos rfl]
    exact variant.codec.back readable
  sound {text json value} read := by
    split at read
    · rename_i same
      exact ⟨variant.codec.sound read, same⟩
    · cases read

/-- The variants of the first, then those of the second. -/
def or (first : Variants tag α) (second : Variants tag β)
    (differ : ∀ value other, first.name value ≠ second.name other) : Variants tag (α ⊕ β) where
  name := Sum.elim first.name second.name
  content := Sum.elim first.content second.content
  read text json := ((first.read text json).map .inl).or ((second.read text json).map .inr)
  Readable := Sum.elim first.Readable second.Readable
  apart value := by
    cases value with
    | inl value => exact first.apart value
    | inr value => exact second.apart value
  back {value} readable := by
    cases value with
    | inl value =>
      dsimp only [Sum.elim_inl] at readable ⊢
      rw [first.back readable]
      rfl
    | inr value =>
      dsimp only [Sum.elim_inr] at readable ⊢
      rw [second.back readable]
      cases other : first.read (second.name value) (.obj (second.content value)) with
      | none => rfl
      | some found => exact absurd (first.sound other).2.symm (differ found value)
  sound {text json value} read := by
    rcases Option.or_eq_some_iff.mp read with here | ⟨_, there⟩
    · obtain ⟨found, decoded, rfl⟩ := Option.map_eq_some_iff.mp here
      exact first.sound decoded
    · obtain ⟨found, decoded, rfl⟩ := Option.map_eq_some_iff.mp there
      exact second.sound decoded

def codec (variants : Variants tag α) : Codec α where
  encode value := .obj ((tag, .str (variants.name value)) :: variants.content value)
  decode json := (untag tag json).bind fun found => variants.read found.1 found.2
  Readable := variants.Readable
  back {value} readable := by
    rw [untag_cons (variants.apart value), Option.bind_some]
    exact variants.back readable
  sound {json value} read := by
    obtain ⟨found, _, decoded⟩ := Option.bind_eq_some_iff.mp read
    exact (variants.sound decoded).1

end Variants

/-! ### Tagged records -/

/-- A record behind a tag with the name of its type. The tag is no field of the record. -/
def Fields.tagged {α : Type} (fields : Fields α) (tag name : String) (value : α) : Json :=
  .obj ((tag, .str name) :: fields.names.zip (fields.encode value))

/-- A codec that allows no other fields does not read a record behind its tag. -/
theorem Fields.tagged_refused {α : Type} {fields : Fields α} {needed : Nat}
    {distinct : fields.names.Nodup} {tag name : String} {value : α} (apart : tag ∉ fields.names) :
    (fields.codec needed distinct).decode (fields.tagged tag name value) = none := by
  unfold Fields.codec Fields.tagged Fields.find
  dsimp only
  rw [if_neg]
  · rfl
  · rintro ⟨_, known⟩
    exact apart (known _ List.mem_cons_self)

end SerdeJson
