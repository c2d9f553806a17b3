import CrowPanel.DataModel.Types
import Mathlib.Data.List.Basic

/-!
# NodeIds and their text

NodeIds as the OPC UA stack decodes them, the predefined nodes of namespace 0 which the client names,
and the two functions that turn OPC UA strings and NodeIds into C strings.  Two NodeIds are equal
for `UA_NodeId_equal` when all their parts are, so equality of the model is the comparison of the
source.
-/

namespace CrowPanel.OpcUa

open Library

/-- `UA_String`; `none` is the string without data, which differs from the empty string. -/
abbrev UaString := Option (List UInt8)

/-- `UA_Guid` -/
structure Guid where
  data1 : UInt32
  data2 : UInt16
  data3 : UInt16
  data4 : Vector UInt8 8
  deriving DecidableEq

/-- The identifier of a NodeId, one constructor for each `UA_NodeIdType`. -/
inductive Identifier where
  | numeric (value : UInt32)
  | string (value : UaString)
  | guid (value : Guid)
  | byteString (value : UaString)
  deriving DecidableEq

/-- `UA_NodeId` -/
structure NodeId where
  namespaceIndex : UInt16
  identifier : Identifier
  deriving DecidableEq

namespace NodeId

/-- `UA_NODEID_NUMERIC(0, value)` -/
abbrev ns0 (value : UInt32) : NodeId := ⟨0, .numeric value⟩

/-- `UA_NODEID_NULL`, also the value of a NodeId after `UA_NodeId_clear` -/
abbrev null : NodeId := ns0 0

/-- `UA_NS0ID_HIERARCHICALREFERENCES` -/
abbrev hierarchicalReferences : NodeId := ns0 33

/-- `UA_NS0ID_ORGANIZES` -/
abbrev organizes : NodeId := ns0 35

/-- `UA_NS0ID_HASPROPERTY` -/
abbrev hasProperty : NodeId := ns0 46

/-- `UA_NS0ID_HASCOMPONENT` -/
abbrev hasComponent : NodeId := ns0 47

/-- `UA_NS0ID_HASORDEREDCOMPONENT` -/
abbrev hasOrderedComponent : NodeId := ns0 49

/-- `UA_NS0ID_FOLDERTYPE` -/
abbrev folderType : NodeId := ns0 61

/-- `UA_NS0ID_OBJECTSFOLDER` -/
abbrev objectsFolder : NodeId := ns0 85

/-- `UA_NS0ID_SERVER` -/
abbrev server : NodeId := ns0 2253

end NodeId

/-! ## Texts -/

/-- `ua_string_to_text`; the reader of the buffer sees its text up to the first NUL. -/
def uaStringToText (size : ℕ) [NeZero size] (source : UaString) : CharArray size :=
  .ofText size (source.getD [])

/-- The digits of a number in a base, as `printf` writes them. -/
def printDigits (base number : ℕ) : Text :=
  (Nat.toDigits base number).map fun digit => digit.toNat.toUInt8

/-- The conversion `%0<width>x`. -/
def printHex (width number : ℕ) : Text :=
  let digits := printDigits 16 number
  List.replicate (width - digits.length) '0'.toNat.toUInt8 ++ digits

/-- The text of the identifier of a GUID NodeId. -/
def Guid.print (guid : Guid) : Text :=
  printHex 8 guid.data1.toNat ++ ascii "-" ++ printHex 4 guid.data2.toNat ++ ascii "-" ++
    printHex 4 guid.data3.toNat ++ ascii "-" ++
    (guid.data4.toList.take 2).flatMap (fun byte => printHex 2 byte.toNat) ++ ascii "-" ++
    (guid.data4.toList.drop 2).flatMap fun byte => printHex 2 byte.toNat

/-- The loop of `node_id_to_text` over a byte string: a byte is written only when both of its digits
and the terminator still fit. -/
def appendHexBytes (size : ℕ) (text : Text) : List UInt8 → Text
  | [] => text
  | byte :: bytes =>
      if text.length + 2 < size then appendHexBytes size (text ++ printHex 2 byte.toNat) bytes
      else text

/-- `node_id_to_text` -/
def nodeIdToText (size : ℕ) [NeZero size] (nodeId : NodeId) : CharArray size :=
  let space := ascii "ns=" ++ printDigits 10 nodeId.namespaceIndex.toNat
  match nodeId.identifier with
  | .numeric value => .ofText size (space ++ ascii ";i=" ++ printDigits 10 value.toNat)
  | .string value =>
      -- the identifier passes through a buffer of its own before it is printed
      let identifier := uaStringToText DataModel.nodeIdLength value
      .ofText size (space ++ ascii ";s=" ++ identifier.text)
  | .guid value => .ofText size (space ++ ascii ";g=" ++ value.print)
  | .byteString value =>
      let start := space ++ ascii ";b="
      .ofText size
        (if size ≤ start.length then start else appendHexBytes size start (value.getD []))

/-- The text under which the data model knows a node. -/
abbrev NodeId.text (nodeId : NodeId) : CharArray DataModel.nodeIdLength :=
  nodeIdToText DataModel.nodeIdLength nodeId

example : (NodeId.text ⟨2, .string (some (ascii "Pump"))⟩).text = ascii "ns=2;s=Pump" := by
  decide +kernel

example : (nodeIdToText 12 ⟨3, .byteString (some [171, 205, 239])⟩).text = ascii "ns=3;b=abcd" := by
  decide +kernel

/-! ## What the texts look like -/

/-- The digits of a number are decimal digits. -/
theorem mem_printDigits {number : ℕ} {byte : UInt8} (hbyte : byte ∈ printDigits 10 number) :
    0x30 ≤ byte ∧ byte ≤ 0x39 := by
  obtain ⟨digit, hdigit, rfl⟩ := List.mem_map.mp hbyte
  have hrange := Char.isDigit_iff_toNat.mp
    (Nat.isDigit_of_mem_toDigits (by decide) (Nat.le_refl 10) hdigit)
  simp only [Char.reduceToNat] at hrange
  rw [UInt8.le_iff_toNat_le, UInt8.le_iff_toNat_le]
  simp only [Nat.toUInt8_eq, UInt8.toNat_ofNat', UInt8.reduceToNat]
  omega

theorem notMem_printDigits {number : ℕ} {byte : UInt8} (hbyte : byte < 0x30 ∨ 0x39 < byte) :
    byte ∉ printDigits 10 number := by
  intro hmem
  obtain ⟨hlow, hhigh⟩ := mem_printDigits hmem
  rcases hbyte with hbyte | hbyte
  · exact absurd hbyte (UInt8.not_lt.mpr hlow)
  · exact absurd hbyte (UInt8.not_lt.mpr hhigh)

/-- The digits tell the number. -/
theorem printDigits_injective {first second : ℕ}
    (hdigits : printDigits 10 first = printDigits 10 second) : first = second := by
  have hread (number : ℕ) : (printDigits 10 number).map (fun byte => Char.ofNat byte.toNat) =
      Nat.toDigits 10 number := by
    rw [printDigits, List.map_map]
    refine (List.map_congr_left fun digit hdigit => ?_).trans (List.map_id _)
    have hrange := Char.isDigit_iff_toNat.mp
      (Nat.isDigit_of_mem_toDigits (by decide) (Nat.le_refl 10) hdigit)
    simp only [Char.reduceToNat] at hrange
    have hbyte : digit.toNat.toUInt8.toNat = digit.toNat := by
      simp only [Nat.toUInt8_eq, UInt8.toNat_ofNat']
      omega
    simp only [Function.comp_apply, hbyte, Char.ofNat_toNat, id_eq]
  have htext : Nat.toDigits 10 first = Nat.toDigits 10 second := by
    rw [← hread first, ← hread second, hdigits]
  simpa using congrArg (Nat.ofDigitChars 10 · 0) htext

/-- A number below a power of ten has no more digits than the exponent. -/
theorem length_printDigits {number digits : ℕ} (hdigits : 0 < digits) (hnumber : number < 10 ^ digits) :
    (printDigits 10 number).length ≤ digits := by
  rw [printDigits, List.length_map]
  exact (Nat.length_toDigits_le_iff (by decide) hdigits).mpr hnumber

theorem prefix_appendHexBytes (size : ℕ) (text : Text) (bytes : List UInt8) :
    text <+: appendHexBytes size text bytes := by
  induction bytes generalizing text with
  | nil => exact List.prefix_refl text
  | cons byte bytes ih =>
      rw [appendHexBytes]
      split
      · exact (List.prefix_append text _).trans (ih _)
      · exact List.prefix_refl text

/-- Every text of a NodeId starts with the namespace. -/
theorem NodeId.text_ne_nil (nodeId : NodeId) : nodeId.text.text ≠ [] := by
  have hstart (rest : Text) :
      (CharArray.ofText DataModel.nodeIdLength (ascii "ns=" ++ rest)).text ≠ [] := by
    obtain ⟨cut, hcut, -⟩ :=
      @CharArray.ofText_append DataModel.nodeIdLength _ (ascii "ns=") rest (by decide) (by decide)
    rw [hcut]
    exact List.append_ne_nil_of_left_ne_nil (by decide) _
  unfold NodeId.text nodeIdToText
  cases nodeId.identifier with
  | numeric value | string value | guid value =>
      simp only [List.append_assoc]
      exact hstart _
  | byteString value =>
      dsimp only
      split
      · simp only [List.append_assoc]
        exact hstart _
      · obtain ⟨rest, hrest⟩ := prefix_appendHexBytes DataModel.nodeIdLength
          (ascii "ns=" ++ printDigits 10 nodeId.namespaceIndex.toNat ++ ascii ";b=") (value.getD [])
        rw [← hrest]
        simp only [List.append_assoc]
        exact hstart _

end CrowPanel.OpcUa
