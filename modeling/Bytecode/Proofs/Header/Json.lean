import Bytecode.Header.Json
import Bytecode.Proofs.Json.Written

/-!
# Headers through JSON

Libraries that serialize records are documented to write a header as the object of its
four fields in order (`JsonLibrary.Documented`), and to read one from any JSON text of an
object that has just these fields. That the text of a header is such a text is a matter of the
grammar (`denotes_toJson`), and that its numbers are found under their keys and fit
(`under_members`, `fit_numbers`) holds whatever the magic and the sizes are. So the two
directions meet in any such library (`json_form_corresponds`).

The writer and the reader of headers here are such a library (`documented_jsonLibrary`).
-/

namespace Bytecode.Header

open Json

/-! ## The numbers of a header -/

/-- The numbers that a record of the fields of a header has, whether they fit or not. -/
structure Numbers where
  magic : List Nat
  codeSize : Nat
  dataSize : Nat
  initialDataSize : Nat

def numbers (header : Header) : Numbers :=
  { magic := header.magic.toList.map UInt8.toNat
    codeSize := header.codeSize.toNat
    dataSize := header.dataSize.toNat
    initialDataSize := header.initialDataSize.toNat }

theorem numbers_injective : Function.Injective numbers := by
  rintro ⟨magic, codeSize, dataSize, initialDataSize⟩ ⟨magicToo, codeSizeToo, dataSizeToo,
    initialDataSizeToo⟩ same
  obtain ⟨sameMagic, sameCode, sameData, sameInitial⟩ := Numbers.mk.inj same
  obtain rfl := UInt32.toNat_inj.mp sameCode
  obtain rfl := UInt32.toNat_inj.mp sameData
  obtain rfl := UInt32.toNat_inj.mp sameInitial
  have bytes : magic.toList = magicToo.toList :=
    List.map_injective_iff.mpr (fun _ _ => UInt8.toNat_inj.mp) sameMagic
  obtain rfl := Vector.toList_inj.mp bytes
  rfl

/-- There are eight numbers of the magic, and every number fits its field. -/
structure Numbers.Fit (numbers : Numbers) : Prop where
  length_magic : numbers.magic.length = 8
  magic_lt : ∀ number ∈ numbers.magic, number < 2 ^ 8
  codeSize_lt : numbers.codeSize < 2 ^ 32
  dataSize_lt : numbers.dataSize < 2 ^ 32
  initialDataSize_lt : numbers.initialDataSize < 2 ^ 32

theorem fit_numbers (header : Header) : header.numbers.Fit where
  length_magic := by simp [numbers]
  magic_lt := by
    intro number inside
    obtain ⟨byte, -, rfl⟩ := List.mem_map.mp inside
    exact byte.toNat_lt
  codeSize_lt := header.codeSize.toNat_lt
  dataSize_lt := header.dataSize.toNat_lt
  initialDataSize_lt := header.initialDataSize.toNat_lt

/-! ## The object of a header -/

/-- The members of an object have these numbers under the keys of a header, in any order.
Each of the four keys comes once, and there is no other. -/
structure Numbers.Under (numbers : Numbers) (members : List (Option (List Char) × Json)) :
    Prop where
  length_members : members.length = 4
  magic : ∃ items, underKey members "magic" = [.array items] ∧
    List.Forall₂ IsNatural items numbers.magic
  codeSize : ∃ item, underKey members "code_size" = [item] ∧ IsNatural item numbers.codeSize
  dataSize : ∃ item, underKey members "data_size" = [item] ∧ IsNatural item numbers.dataSize
  initialDataSize : ∃ item, underKey members "initial_data_size" = [item] ∧
    IsNatural item numbers.initialDataSize

/-- The fields of a header under their keys, in order. -/
def members (header : Header) : List (Option (List Char) × Json) :=
  [ (some "magic".toList, .array ((header.magic.toList.map UInt8.toNat).map ofNatural)),
    (some "code_size".toList, ofNatural header.codeSize.toNat),
    (some "data_size".toList, ofNatural header.dataSize.toNat),
    (some "initial_data_size".toList, ofNatural header.initialDataSize.toNat) ]

theorem nodup_keys (header : Header) : (header.members.map Prod.fst).Nodup := by
  have keys : header.members.map Prod.fst = [some "magic".toList, some "code_size".toList,
      some "data_size".toList, some "initial_data_size".toList] := rfl
  rw [keys]
  decide

theorem under_members (header : Header) : header.numbers.Under header.members := by
  have under {key : String} {item : Json} (inside : (some key.toList, item) ∈ header.members) :
      underKey header.members key = [item] := underKey_eq_singleton header.nodup_keys inside
  refine ⟨rfl, ⟨_, under (.head _), ?_⟩, ⟨_, under (.tail _ (.head _)), isNatural_ofNatural _⟩,
    ⟨_, under (.tail _ (.tail _ (.head _))), isNatural_ofNatural _⟩,
    ⟨_, under (.tail _ (.tail _ (.tail _ (.head _)))), isNatural_ofNatural _⟩⟩
  exact forall₂_isNatural_ofNatural header.numbers.magic

/-- The text of a header stands for the object of its fields. -/
theorem denotes_toJson (header : Header) :
    Denotes header.toJson.toList (.object header.members) := by
  have magic : Denotes (writeNumbers (header.magic.toList.map UInt8.toNat))
      (.array ((header.magic.toList.map UInt8.toNat).map ofNatural)) := by
    refine .array (denotesItems_ofNatural ?_)
    intro empty
    have length := congrArg List.length empty
    simp at length
  have magicKey : Plain "magic".toList := by simp [Plain]
  have codeKey : Plain "code_size".toList := by simp [Plain]
  have dataKey : Plain "data_size".toList := by simp [Plain]
  have initialKey : Plain "initial_data_size".toList := by simp [Plain]
  have fields : DenotesMembers _ header.members :=
    .cons (.quoted magicKey) magic <|
    .cons (.quoted codeKey) (denotes_ofNatural header.codeSize.toNat) <|
    .cons (.quoted dataKey) (denotes_ofNatural header.dataSize.toNat) <|
    .last (.quoted initialKey) (denotes_ofNatural header.initialDataSize.toNat)
  convert Denotes.object fields using 1
  simp [toJson, writeKey, writeNumber]

/-! ## Libraries -/

/-- A library that serializes headers as JSON texts and deserializes them. Either may
fail. -/
structure JsonLibrary where
  serialize : Header → Option String
  deserialize : String → Option Header

/-- What such a library is documented to do. -/
structure JsonLibrary.Documented (library : JsonLibrary) : Prop where
  /-- A header is written as the object of its fields, in their order and without blanks,
  the magic as an array of eight numbers. -/
  serialize_eq : ∀ header, library.serialize header = some header.toJson
  /-- Whatever JSON text there is of an object that has the fields once each and nothing
  else, with numbers that fit, is read as the header with these numbers. -/
  deserialize_of_denotes : ∀ text members numbers,
    Denotes text.toList (.object members) → Numbers.Under numbers members → numbers.Fit →
      ∃ header, library.deserialize text = some header ∧ header.numbers = numbers

/-- **The JSON form of a header stands for it alone.** With any library that does what it
is documented to do, serializing a header succeeds and deserializing the text gives the
header back, whatever the bytes of its magic and its sizes are; so no two headers have
the same text. -/
theorem json_form_corresponds {library : JsonLibrary} (documented : library.Documented) :
    (∀ header, ∃ text, library.serialize header = some text ∧
      library.deserialize text = some header) ∧
    ∀ header other text, library.serialize header = some text →
      library.serialize other = some text → header = other := by
  have back (header : Header) : library.deserialize header.toJson = some header := by
    obtain ⟨found, read, numbers⟩ := documented.deserialize_of_denotes _ _ _
      header.denotes_toJson header.under_members header.fit_numbers
    rw [read, numbers_injective numbers]
  refine ⟨fun header => ⟨_, documented.serialize_eq header, back header⟩, ?_⟩
  intro header other text first second
  rw [documented.serialize_eq, Option.some.injEq] at first second
  have both := (back header).symm.trans (first.trans second.symm ▸ back other)
  exact Option.some.inj both

/-! ## A library that does so -/

/-- The writer and the reader of headers as a library. -/
def jsonLibrary : JsonLibrary :=
  { serialize := fun header => some header.toJson
    deserialize := ofJsonText? }

theorem byteOfJson?_of_isNatural {item : Json} {number : Nat} (natural : IsNatural item number)
    (fits : number < 2 ^ 8) : byteOfJson? item = some (.ofNat number) := by
  rw [byteOfJson?, natural?_of_isNatural natural, Option.bind_some]
  exact if_pos fits

theorem sizeOfJson?_of_isNatural {item : Json} {number : Nat} (natural : IsNatural item number)
    (fits : number < 2 ^ 32) : sizeOfJson? item = some (.ofNat number) := by
  rw [sizeOfJson?, natural?_of_isNatural natural, Option.bind_some]
  exact if_pos fits

theorem mapM_byteOfJson?_of_isNatural {items : List Json} {numbers : List Nat}
    (natural : List.Forall₂ IsNatural items numbers) (fits : ∀ number ∈ numbers, number < 2 ^ 8) :
    items.mapM byteOfJson? = some (numbers.map .ofNat) := by
  induction natural with
  | nil => rfl
  | cons first _ ih =>
      obtain ⟨fitsFirst, fitsOthers⟩ := List.forall_mem_cons.mp fits
      rw [List.mapM_cons, byteOfJson?_of_isNatural first fitsFirst, ih fitsOthers]
      rfl

/-- Numbers under the keys of a header that fit are read as the header of these
numbers. -/
theorem exists_ofJson?_eq {members : List (Option (List Char) × Json)} {numbers : Numbers}
    (keys : ∀ member ∈ members, member.1.isSome = true) (under : numbers.Under members)
    (fit : numbers.Fit) :
    ∃ header, ofJson? (.object members) = some header ∧ header.numbers = numbers := by
  obtain ⟨magicItems, magicFound, magic⟩ := under.magic
  obtain ⟨codeItem, codeFound, codeSize⟩ := under.codeSize
  obtain ⟨dataItem, dataFound, dataSize⟩ := under.dataSize
  obtain ⟨initialItem, initialFound, initialDataSize⟩ := under.initialDataSize
  have whole : (numbers.magic.map UInt8.ofNat).length = 8 := by
    rw [List.length_map, fit.length_magic]
  have magicRead : magicOfJson? (.array magicItems) =
      some ⟨(numbers.magic.map UInt8.ofNat).toArray, whole⟩ := by
    rw [magicOfJson?, mapM_byteOfJson?_of_isNatural magic fit.magic_lt, Option.bind_eq_bind,
      Option.bind_some, dif_pos whole]
  have magicSame : (numbers.magic.map UInt8.ofNat).map UInt8.toNat = numbers.magic := by
    rw [List.map_map]
    calc numbers.magic.map (UInt8.toNat ∘ UInt8.ofNat)
        = numbers.magic.map id := List.map_congr_left fun number inside =>
          UInt8.toNat_ofNat_of_lt' (fit.magic_lt number inside)
      _ = numbers.magic := List.map_id _
  have allKeys : members.all (fun member => member.1.isSome) = true := List.all_eq_true.mpr keys
  refine ⟨⟨⟨(numbers.magic.map UInt8.ofNat).toArray, whole⟩, .ofNat numbers.codeSize,
    .ofNat numbers.dataSize, .ofNat numbers.initialDataSize⟩, ?_, ?_⟩
  · simp [ofJson?, allKeys, onlyUnderKey?_eq_some magicFound, onlyUnderKey?_eq_some codeFound,
      onlyUnderKey?_eq_some dataFound, onlyUnderKey?_eq_some initialFound, ofFields?,
      magicRead, sizeOfJson?_of_isNatural codeSize fit.codeSize_lt,
      sizeOfJson?_of_isNatural dataSize fit.dataSize_lt,
      sizeOfJson?_of_isNatural initialDataSize fit.initialDataSize_lt]
  · simp [Header.numbers, magicSame, UInt32.toNat_ofNat_of_lt' fit.codeSize_lt,
      UInt32.toNat_ofNat_of_lt' fit.dataSize_lt, UInt32.toNat_ofNat_of_lt' fit.initialDataSize_lt]

theorem documented_jsonLibrary : jsonLibrary.Documented where
  serialize_eq := fun _ => rfl
  deserialize_of_denotes := by
    intro text members numbers denotes under fit
    obtain ⟨header, read, same⟩ := exists_ofJson?_eq (denotes.isSome_key _ rfl) under fit
    refine ⟨header, ?_, same⟩
    show ofJsonText? text = some header
    rw [ofJsonText?, parse_of_denotes denotes, Option.bind_some, read]

/-- A header without the signature, with bytes and sizes from both ends of their
ranges. -/
def unsigned : Header :=
  { magic := #v[0, 9, 10, 99, 100, 200, 254, 255]
    codeSize := 4294967295
    dataSize := 0
    initialDataSize := 10 }

theorem json_form_corresponds_unsigned :
    let text := "\x7b\"magic\":[0,9,10,99,100,200,254,255],\"code_size\":4294967295," ++
      "\"data_size\":0,\"initial_data_size\":10\x7d"
    jsonLibrary.Documented ∧ jsonLibrary.serialize unsigned = some text ∧
      jsonLibrary.deserialize text = some unsigned := by
  intro text
  have written : jsonLibrary.serialize unsigned = some text := by cbv
  obtain ⟨found, serialized, read⟩ :=
    (json_form_corresponds documented_jsonLibrary).1 unsigned
  obtain rfl := Option.some.inj (serialized.symm.trans written)
  exact ⟨documented_jsonLibrary, written, read⟩

end Bytecode.Header
