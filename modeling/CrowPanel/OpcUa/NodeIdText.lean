import CrowPanel.DataModel.Alarms
import CrowPanel.Library.SelfDelimiting
import CrowPanel.Library.UrlEncoding
import CrowPanel.OpcUa.TextUtf8

/-!
# The text of a NodeId as a key

`NodeId.rendering` is the text of a NodeId without any cut: the namespace, the letter of the kind and the
identifier, in decimal digits, as it is, or in hexadecimal digits.  The identifier comes last, so a string
identifier may hold semicolons and look like any other NodeId.

## Strategy

The namespace closes with a semicolon and the kind is one letter, so the rendering is taken apart from
the front (`rendering_inj`); only a string without data is written like the empty one.  Where the
rendering fits it is the text (`text_eq_rendering`).  `nodeIdToTextIn` is the function with its writes.
-/

namespace CrowPanel.OpcUa

open Library DataModel

/-! ## Hexadecimal digits -/

/-- The number that hexadecimal digits write. -/
def readHex (text : Text) : ℕ :=
  text.foldl (fun number byte => 16 * number + ((hexDigit? byte).getD 0).toNat) 0

/-- One digit of `printDigits 16`. -/
theorem hexDigit?_digitChar {digit : ℕ} (hdigit : digit < 16) :
    hexDigit? (Nat.digitChar digit).toNat.toUInt8 = some digit.toUInt8 := by
  have htable : ∀ digit : Fin 16,
      hexDigit? (Nat.digitChar digit).toNat.toUInt8 = some digit.val.toUInt8 := by decide
  exact htable ⟨digit, hdigit⟩

theorem printDigits_hex_of_lt {number : ℕ} (hnumber : number < 16) :
    printDigits 16 number = [(Nat.digitChar number).toNat.toUInt8] := by
  rw [printDigits, Nat.toDigits_of_lt_base hnumber]
  rfl

/-- The last digit comes off the end. -/
theorem printDigits_hex_of_le {number : ℕ} (hnumber : 16 ≤ number) :
    printDigits 16 number =
      printDigits 16 (number / 16) ++ [(Nat.digitChar (number % 16)).toNat.toUInt8] := by
  rw [printDigits, Nat.toDigits_of_base_le (by decide) hnumber, List.map_append]
  rfl

theorem readHex_concat {text : Text} {digit : ℕ} (hdigit : digit < 16) :
    readHex (text ++ [(Nat.digitChar digit).toNat.toUInt8]) = 16 * readHex text + digit := by
  have hvalue : digit.toUInt8.toNat = digit := by
    rw [Nat.toUInt8_eq, UInt8.toNat_ofNat']
    omega
  rw [readHex, List.foldl_append, List.foldl_cons, List.foldl_nil, hexDigit?_digitChar hdigit,
    Option.getD_some, hvalue]
  rfl

theorem readHex_printDigits (number : ℕ) : readHex (printDigits 16 number) = number := by
  induction number using Nat.strong_induction_on with
  | _ number ih =>
      rcases Nat.lt_or_ge number 16 with hlt | hge
      · have hread := @readHex_concat [] number hlt
        rw [List.nil_append] at hread
        rw [printDigits_hex_of_lt hlt, hread]
        exact Nat.zero_add number
      · rw [printDigits_hex_of_le hge, readHex_concat (Nat.mod_lt _ (by decide)),
          ih (number / 16) (by omega)]
        omega

/-- Leading zeros do not change the number. -/
theorem readHex_printHex (width number : ℕ) : readHex (printHex width number) = number := by
  have hzeros (count : ℕ) (text : Text) :
      readHex (List.replicate count '0'.toNat.toUInt8 ++ text) = readHex text := by
    induction count with
    | zero => rfl
    | succ count ih => exact ih
  unfold printHex
  rw [hzeros, readHex_printDigits]

theorem length_printHex {width number : ℕ} (hwidth : 0 < width) (hnumber : number < 16 ^ width) :
    (printHex width number).length = width := by
  have hdigits : (printDigits 16 number).length ≤ width := by
    rw [printDigits, List.length_map]
    exact (Nat.length_toDigits_le_iff (by decide) hwidth).mpr hnumber
  unfold printHex
  rw [List.length_append, List.length_replicate]
  omega

theorem mem_printDigits_hex {number : ℕ} {byte : UInt8} (hbyte : byte ∈ printDigits 16 number) :
    (hexDigit? byte).isSome := by
  have hdigit {digit : ℕ} (hlt : digit < 16)
      (hmem : byte = (Nat.digitChar digit).toNat.toUInt8) : (hexDigit? byte).isSome := by
    rw [hmem, hexDigit?_digitChar hlt]
    rfl
  induction number using Nat.strong_induction_on with
  | _ number ih =>
      rcases Nat.lt_or_ge number 16 with hlt | hge
      · rw [printDigits_hex_of_lt hlt, List.mem_singleton] at hbyte
        exact hdigit hlt hbyte
      · rw [printDigits_hex_of_le hge, List.mem_append, List.mem_singleton] at hbyte
        rcases hbyte with hfront | hlast
        · exact ih (number / 16) (by omega) hfront
        · exact hdigit (Nat.mod_lt _ (by decide)) hlast

theorem noNul_printHex (width number : ℕ) : 0 ∉ printHex width number := by
  intro hmem
  unfold printHex at hmem
  rcases List.mem_append.mp hmem with hzeros | hdigits
  · exact absurd (List.eq_of_mem_replicate hzeros) (by decide)
  · exact absurd (mem_printDigits_hex hdigits) (by decide)

/-- A number below a power of sixteen is written with a fixed number of digits. -/
theorem printHex_selfDelimiting {α : Type*} {toNat : α → ℕ} {width : ℕ} (hwidth : 0 < width)
    (hnumber : ∀ value, toNat value < 16 ^ width) (hinjective : Function.Injective toNat) :
    SelfDelimiting fun value => printHex width (toNat value) := by
  refine .of_length (fun value => length_printHex hwidth (hnumber value)) fun first second htext => ?_
  apply hinjective
  rw [← readHex_printHex width (toNat first), ← readHex_printHex width (toNat second)]
  exact congrArg readHex htext

/-! ## Identifiers -/

/-- The bytes of a byte string in digits. -/
def hexBytes (bytes : List UInt8) : Text :=
  bytes.flatMap fun byte => printHex 2 byte.toNat

theorem hexByte_selfDelimiting : SelfDelimiting fun byte : UInt8 => printHex 2 byte.toNat :=
  printHex_selfDelimiting (by decide) UInt8.toNat_lt fun _ _ => UInt8.toNat_inj.mp

theorem length_hexByte (byte : UInt8) : (printHex 2 byte.toNat).length = 2 :=
  length_printHex (by decide) byte.toNat_lt

theorem hexBytes_injective : Function.Injective hexBytes := by
  apply hexByte_selfDelimiting.flatMap_injective
  intro byte hnil
  have hlength := length_hexByte byte
  rw [hnil] at hlength
  cases hlength

theorem length_hexBytes (bytes : List UInt8) : (hexBytes bytes).length = 2 * bytes.length := by
  induction bytes with
  | nil => rfl
  | cons byte bytes ih =>
      rw [hexBytes, List.flatMap_cons, List.length_append, length_hexByte, List.length_cons]
      change 2 + (hexBytes bytes).length = _
      omega

theorem noNul_hexBytes (bytes : List UInt8) : 0 ∉ hexBytes bytes := by
  intro hmem
  obtain ⟨byte, -, hbyte⟩ := List.mem_flatMap.mp hmem
  exact noNul_printHex 2 byte.toNat hbyte

/-- The groups of a GUID have fixed widths. -/
theorem Guid.print_injective : Function.Injective Guid.print := by
  intro first second htext
  have hdata1 : SelfDelimiting fun value : UInt32 => printHex 8 value.toNat :=
    printHex_selfDelimiting (by decide) UInt32.toNat_lt fun _ _ => UInt32.toNat_inj.mp
  have hshort : SelfDelimiting fun value : UInt16 => printHex 4 value.toNat :=
    printHex_selfDelimiting (by decide) UInt16.toNat_lt fun _ _ => UInt16.toNat_inj.mp
  simp only [Guid.print, List.append_assoc] at htext
  obtain ⟨h1, htext⟩ := hdata1 htext
  obtain ⟨h2, htext⟩ := hshort (List.append_cancel_left htext)
  obtain ⟨h3, htext⟩ := hshort (List.append_cancel_left htext)
  have hlength : (hexBytes (first.data4.toList.take 2)).length =
      (hexBytes (second.data4.toList.take 2)).length := by
    rw [length_hexBytes, length_hexBytes]
    simp
  obtain ⟨hfront, htext⟩ := List.append_inj (List.append_cancel_left htext) hlength
  have hdata4 : first.data4 = second.data4 := by
    apply Vector.toList_inj.mp
    rw [← List.take_append_drop 2 first.data4.toList, ← List.take_append_drop 2 second.data4.toList,
      hexBytes_injective hfront, hexBytes_injective (List.append_cancel_left htext)]
  cases first
  cases second
  congr

theorem Guid.noNul_print (guid : Guid) : 0 ∉ guid.print := by
  have hdash : (0 : UInt8) ∉ ascii "-" := by decide
  have hbytes (bytes : List UInt8) := noNul_hexBytes bytes
  unfold hexBytes at hbytes
  simp only [Guid.print, List.mem_append, not_or]
  exact ⟨⟨⟨⟨⟨⟨⟨⟨noNul_printHex _ _, hdash⟩, noNul_printHex _ _⟩, hdash⟩, noNul_printHex _ _⟩, hdash⟩,
    hbytes _⟩, hdash⟩, hbytes _⟩

/-- The letter of an identifier type. -/
def Identifier.kind : Identifier → UInt8
  | .numeric _ => 0x69
  | .string _ => 0x73
  | .guid _ => 0x67
  | .byteString _ => 0x62

/-- The text of an identifier. -/
def Identifier.print : Identifier → Text
  | .numeric value => printDigits 10 value.toNat
  | .string value => value.getD []
  | .guid value => value.print
  | .byteString value => hexBytes (value.getD [])

/-- A string without data is taken for the empty one. -/
def Identifier.withData : Identifier → Identifier
  | .string value => .string (some (value.getD []))
  | .byteString value => .byteString (some (value.getD []))
  | identifier => identifier

theorem Identifier.print_withData (identifier : Identifier) :
    identifier.withData.kind = identifier.kind ∧ identifier.withData.print = identifier.print := by
  cases identifier <;> exact ⟨rfl, rfl⟩

/-- The letter tells how to read the text. -/
theorem Identifier.withData_eq {first second : Identifier} (hkind : first.kind = second.kind)
    (hprint : first.print = second.print) : first.withData = second.withData := by
  cases first with
  | numeric value =>
      cases second with
      | numeric other =>
          rw [UInt32.toNat_inj.mp (printDigits_injective hprint)]
      | string other | guid other | byteString other => simp [Identifier.kind] at hkind
  | string value =>
      cases second with
      | string other =>
          have hvalue : value.getD [] = other.getD [] := hprint
          rw [Identifier.withData, Identifier.withData, hvalue]
      | numeric other | guid other | byteString other => simp [Identifier.kind] at hkind
  | guid value =>
      cases second with
      | guid other => rw [Guid.print_injective hprint]
      | numeric other | string other | byteString other => simp [Identifier.kind] at hkind
  | byteString value =>
      cases second with
      | byteString other =>
          have hvalue := hexBytes_injective hprint
          rw [Identifier.withData, Identifier.withData, hvalue]
      | numeric other | string other | guid other => simp [Identifier.kind] at hkind

/-! ## NodeIds -/

namespace NodeId

/-- The text of a NodeId, were the buffer long enough. -/
def rendering (nodeId : NodeId) : Text :=
  ascii "ns=" ++ (printDigits 10 nodeId.namespaceIndex.toNat ++ [0x3B]) ++
    nodeId.identifier.kind :: 0x3D :: nodeId.identifier.print

/-- The NodeId with the empty string for a string without data. -/
def withData (nodeId : NodeId) : NodeId :=
  { nodeId with identifier := nodeId.identifier.withData }

/-- The rendering is taken apart from the front, whatever the identifier looks like. -/
theorem rendering_inj {first second : NodeId} :
    first.rendering = second.rendering ↔ first.withData = second.withData := by
  constructor
  · intro htext
    have hspace : SelfDelimiting fun value : UInt16 => printDigits 10 value.toNat ++ [0x3B] :=
      .of_closing (fun _ => notMem_printDigits (by decide)) fun _ _ hdigits =>
        UInt16.toNat_inj.mp (printDigits_injective hdigits)
    simp only [rendering, List.append_assoc] at htext
    have hrest := List.append_cancel_left htext
    rw [← List.append_assoc, ← List.append_assoc] at hrest
    obtain ⟨hnamespace, hidentifier⟩ := hspace hrest
    obtain ⟨hkind, hprint⟩ := List.cons_eq_cons.mp hidentifier
    rw [withData, withData, hnamespace,
      Identifier.withData_eq hkind (List.tail_eq_of_cons_eq hprint)]
  · intro hdata
    have hrendering (nodeId : NodeId) : nodeId.withData.rendering = nodeId.rendering := by
      obtain ⟨hkind, hprint⟩ := nodeId.identifier.print_withData
      rw [rendering, rendering, withData, hkind, hprint]
    rw [← hrendering first, ← hrendering second, hdata]

/-- A NodeId whose whole text the data model has room for, and which has no NUL. -/
structure Renders (nodeId : NodeId) : Prop where
  fits : nodeId.rendering.length ≤ nodeIdLength - 1
  noNul : ∀ value, nodeId.identifier = .string value → 0 ∉ value.getD []

theorem Renders.noNul_rendering {nodeId : NodeId} (hrenders : nodeId.Renders) :
    0 ∉ nodeId.rendering := by
  have hdigits (number : ℕ) : (0 : UInt8) ∉ printDigits 10 number := notMem_printDigits (by decide)
  have hprint : nodeId.identifier.kind ≠ 0 ∧ 0 ∉ nodeId.identifier.print := by
    cases hidentifier : nodeId.identifier with
    | numeric value => exact ⟨(by decide : (0x69 : UInt8) ≠ 0), hdigits value.toNat⟩
    | string value =>
        exact ⟨(by decide : (0x73 : UInt8) ≠ 0), hrenders.noNul value hidentifier⟩
    | guid value => exact ⟨(by decide : (0x67 : UInt8) ≠ 0), value.noNul_print⟩
    | byteString value => exact ⟨(by decide : (0x62 : UInt8) ≠ 0), noNul_hexBytes _⟩
  simp only [rendering, List.mem_append, List.mem_cons, List.not_mem_nil, or_false, not_or]
  exact ⟨⟨by decide, hdigits _, by decide⟩, Ne.symm hprint.1, by decide, hprint.2⟩

end NodeId

/-- The loop writes all bytes that fit. -/
theorem appendHexBytes_eq {size : ℕ} {text : Text} {bytes : List UInt8}
    (hfits : (text ++ hexBytes bytes).length < size) :
    appendHexBytes size text bytes = text ++ hexBytes bytes := by
  induction bytes generalizing text with
  | nil => exact (List.append_nil text).symm
  | cons byte bytes ih =>
      have hwhole : text ++ hexBytes (byte :: bytes) =
          (text ++ printHex 2 byte.toNat) ++ hexBytes bytes := by
        rw [hexBytes, List.flatMap_cons, List.append_assoc]
        rfl
      rw [hwhole] at hfits ⊢
      have hroom : text.length + 2 < size := by
        rw [List.length_append, List.length_append, length_hexByte] at hfits
        omega
      rw [appendHexBytes, if_pos hroom]
      exact ih hfits

/-- The rendering in the pieces of the format strings. -/
theorem NodeId.rendering_eq (nodeId : NodeId) {letter : Text}
    (hletter : letter = [0x3B, nodeId.identifier.kind, 0x3D]) :
    nodeId.rendering = ascii "ns=" ++ printDigits 10 nodeId.namespaceIndex.toNat ++ letter ++
      nodeId.identifier.print := by
  rw [hletter, rendering]
  simp only [List.append_assoc, List.cons_append, List.nil_append]

/-- A text that fits is written as a whole. -/
theorem NodeId.text_eq_rendering {nodeId : NodeId} (hrenders : nodeId.Renders) :
    nodeId.text.text = nodeId.rendering := by
  have hfits : nodeId.rendering.length < nodeIdLength := by
    have hlength : nodeId.rendering.length ≤ 127 := hrenders.fits
    have hsize : nodeIdLength = 128 := rfl
    omega
  suffices htext : nodeId.text = .ofText nodeIdLength nodeId.rendering by
    rw [htext]
    exact CharArray.ofText_text hrenders.noNul_rendering hfits
  obtain ⟨space, identifier⟩ := nodeId
  cases identifier with
  | numeric value =>
      rw [rendering_eq ⟨space, .numeric value⟩ (rfl : ascii ";i=" = _)]
      rfl
  | string value =>
      have hwhole := rendering_eq ⟨space, .string value⟩ (rfl : ascii ";s=" = _)
      have hidentifier : (uaStringToText nodeIdLength value).text = value.getD [] := by
        rw [uaStringToText_text (hrenders.noNul value rfl)]
        apply List.take_of_length_le
        rw [hwhole, List.length_append] at hfits
        change _ + (value.getD []).length < _ at hfits
        omega
      simp only [NodeId.text, nodeIdToText]
      rw [hwhole, hidentifier]
      rfl
  | guid value =>
      rw [rendering_eq ⟨space, .guid value⟩ (rfl : ascii ";g=" = _)]
      rfl
  | byteString value =>
      have hwhole := rendering_eq ⟨space, .byteString value⟩ (rfl : ascii ";b=" = _)
      rw [hwhole] at hfits ⊢
      have hstart := hfits
      rw [List.length_append] at hstart
      have hroom : (ascii "ns=" ++ printDigits 10 space.toNat ++ ascii ";b=").length < nodeIdLength :=
        (Nat.le_add_right _ _).trans_lt hstart
      simp only [NodeId.text, nodeIdToText]
      rw [if_neg (not_le.mpr hroom)]
      exact congrArg _ (appendHexBytes_eq hfits)

/-- Two NodeIds whose texts fit have one text exactly if they differ in nothing but a missing string. -/
theorem NodeId.text_eq_iff {first second : NodeId} (hfirst : first.Renders)
    (hsecond : second.Renders) : first.text = second.text ↔ first.withData = second.withData := by
  rw [← rendering_inj, ← text_eq_rendering hfirst, ← text_eq_rendering hsecond]
  exact ⟨congrArg CharArray.text, CharArray.ext_text⟩

/-- The text of a numeric NodeId always fits. -/
theorem NodeId.renders_numeric (namespaceIndex : UInt16) (value : UInt32) :
    NodeId.Renders ⟨namespaceIndex, .numeric value⟩ := by
  refine ⟨?_, fun _ hvalue => nomatch hvalue⟩
  have hspace : (printDigits 10 namespaceIndex.toNat).length ≤ 5 :=
    length_printDigits (by decide) (by have := namespaceIndex.toNat_lt; omega)
  have hvalue : (printDigits 10 value.toNat).length ≤ 10 :=
    length_printDigits (by decide) (by have := value.toNat_lt; omega)
  have hconstant : (ascii "ns=").length = 3 := by decide
  have hsize : nodeIdLength = 128 := rfl
  simp only [rendering, Identifier.print, List.length_append, List.length_cons, List.length_nil]
  omega

/-! ## The writes -/

/-- The loop of `node_id_to_text` over a byte string, as it writes into a buffer. -/
def appendHexBytesIn (buffer : Buffer) (offset : ℕ) : List UInt8 → Option Buffer
  | [] => some buffer
  | byte :: bytes =>
      if offset + 2 < buffer.length then
        let printed := printHex 2 byte.toNat
        (buffer.print offset (buffer.length - offset) printed).bind fun buffer =>
          if printed.length ≠ 2 then some buffer else appendHexBytesIn buffer (offset + 2) bytes
      else some buffer

/-- `node_id_to_text`, as it writes into a buffer. -/
def nodeIdToTextIn (buffer : Buffer) (nodeId : NodeId) : Option Buffer :=
  if buffer.length = 0 then some buffer
  else
    let space := ascii "ns=" ++ printDigits 10 nodeId.namespaceIndex.toNat
    match nodeId.identifier with
    | .numeric value =>
        buffer.print 0 buffer.length (space ++ ascii ";i=" ++ printDigits 10 value.toNat)
    | .string value =>
        (uaStringToTextIn (List.replicate nodeIdLength 0) value).bind fun identifier =>
          buffer.print 0 buffer.length (space ++ ascii ";s=" ++ cString identifier)
    | .guid value => buffer.print 0 buffer.length (space ++ ascii ";g=" ++ value.print)
    | .byteString value =>
        let start := space ++ ascii ";b="
        (buffer.print 0 buffer.length start).bind fun buffer =>
          if buffer.length ≤ start.length then some buffer
          else appendHexBytesIn buffer start.length (value.getD [])

/-- The loop goes on behind what it has written. -/
theorem appendHexBytesIn_leaves {buffer : Buffer} {text : Text} (hholds : buffer.Holds text)
    (bytes : List UInt8) :
    Buffer.Leaves (appendHexBytesIn buffer text.length bytes) buffer.length
      (appendHexBytes buffer.length text bytes) := by
  induction bytes generalizing buffer text with
  | nil => exact ⟨buffer, rfl, rfl, hholds⟩
  | cons byte bytes ih =>
      unfold appendHexBytesIn appendHexBytes
      split
      · next hroom =>
          have hdigits := length_hexByte byte
          obtain ⟨next, hprint, hlength, hnext⟩ :=
            @Buffer.Holds.leaves_print _ (printHex 2 byte.toNat) _ hholds (by omega)
          dsimp only
          rw [hprint, Option.bind_some, if_neg (not_not.mpr hdigits)]
          have hrest := ih hnext
          rw [List.length_append, hdigits, hlength] at hrest
          exact hrest
      · exact ⟨buffer, rfl, rfl, hholds⟩

/-- The text that the loop builds fits, and has no NUL. -/
theorem appendHexBytes_fits {size : ℕ} {text : Text} (hnul : 0 ∉ text) (hfits : text.length < size)
    (bytes : List UInt8) :
    0 ∉ appendHexBytes size text bytes ∧ (appendHexBytes size text bytes).length < size := by
  induction bytes generalizing text with
  | nil => exact ⟨hnul, hfits⟩
  | cons byte bytes ih =>
      rw [appendHexBytes]
      split
      · next hroom =>
          apply ih
          · rw [List.mem_append, not_or]
            exact ⟨hnul, noNul_printHex 2 byte.toNat⟩
          · rw [List.length_append, length_hexByte]
            exact hroom
      · exact ⟨hnul, hfits⟩

section

variable {size : ℕ} [NeZero size] {buffer : Buffer}

/-- `snprintf` leaves what an array of this size keeps of the text. -/
theorem print_leaves (hsize : buffer.length = size) {text : Text} (hnul : 0 ∉ text) :
    Buffer.Leaves (buffer.print 0 buffer.length text) size (CharArray.ofText size text).text := by
  have hpos : 0 < buffer.length := by
    rw [hsize]
    exact Nat.pos_of_ne_zero (NeZero.ne size)
  rw [CharArray.ofText_text_take hnul, ← hsize]
  exact Buffer.leaves_print hpos

/-- Every run stays within the buffer and leaves the text there. -/
theorem nodeIdToTextIn_leaves (hsize : buffer.length = size) (nodeId : NodeId) :
    Buffer.Leaves (nodeIdToTextIn buffer nodeId) size (nodeIdToText size nodeId).text := by
  have hne : buffer.length ≠ 0 := hsize ▸ NeZero.ne size
  have hdigits (number : ℕ) : (0 : UInt8) ∉ printDigits 10 number := notMem_printDigits (by decide)
  have hnul {letter body : Text} (hletter : 0 ∉ letter) (hbody : 0 ∉ body) :
      0 ∉ ascii "ns=" ++ printDigits 10 nodeId.namespaceIndex.toNat ++ letter ++ body := by
    simp only [List.mem_append, not_or]
    exact ⟨⟨⟨by decide, hdigits _⟩, hletter⟩, hbody⟩
  unfold nodeIdToTextIn nodeIdToText
  rw [if_neg hne]
  cases nodeId.identifier with
  | numeric value => exact print_leaves hsize (hnul (by decide) (hdigits value.toNat))
  | string value =>
      obtain ⟨identifier, hidentifier, -, hholds⟩ :=
        @uaStringToTextIn_leaves (List.replicate nodeIdLength 0) value
          (by rw [List.length_replicate]; decide)
      have htext : cString identifier = (uaStringToText nodeIdLength value).text := by
        rw [hholds.cString_buffer, List.length_replicate]
        exact List.take_takeWhile.symm
      dsimp only
      rw [hidentifier, Option.bind_some, htext]
      exact print_leaves hsize (hnul (by decide) (uaStringToText nodeIdLength value).noNul)
  | guid value => exact print_leaves hsize (hnul (by decide) value.noNul_print)
  | byteString value =>
      dsimp only
      generalize hstart : ascii "ns=" ++ printDigits 10 nodeId.namespaceIndex.toNat ++ ascii ";b=" =
        start
      have hstartNul : 0 ∉ start := by
        rw [← hstart, ← List.append_nil (_ ++ ascii ";b=")]
        exact hnul (by decide) List.not_mem_nil
      obtain ⟨next, hprint, hlength, hholds⟩ := print_leaves hsize hstartNul
      rw [hprint, Option.bind_some, hlength]
      split
      · exact ⟨next, rfl, hlength, hholds⟩
      · next hroom =>
          obtain ⟨hnul, hfits⟩ := appendHexBytes_fits hstartNul (not_le.mp hroom) (value.getD [])
          rw [CharArray.ofText_text hstartNul (not_le.mp hroom)] at hholds
          rw [CharArray.ofText_text hnul hfits, ← hlength]
          exact appendHexBytesIn_leaves hholds _

end

/-! ## The text as a key -/

/-- The text of a NodeId is a key up to missing strings, so a report leaves the alarms of other sources as
they are; and every text ends inside its buffer. -/
theorem nodeIdToText_key (first second : NodeId) (hfirst : first.Renders) (hsecond : second.Renders) :
    (first.text = second.text ↔ first.withData = second.withData) ∧
      (first.withData ≠ second.withData → ∀ (model : DataModel) (held alarm : Alarm),
        held.sourceNodeId = first.text → alarm.sourceNodeId = second.text →
          held.key ≠ alarm.key ∧
            (held ∈ model.alarms → held ∈ (model.updateAlarm (some alarm)).2.alarms)) ∧
      ∀ (nodeId : NodeId) (size : ℕ) [NeZero size] (buffer : Buffer), buffer.length = size →
        Buffer.Leaves (nodeIdToTextIn buffer nodeId) size (nodeIdToText size nodeId).text := by
  have hsame := NodeId.text_eq_iff hfirst hsecond
  refine ⟨hsame, ?_, fun nodeId size _ buffer hsize => nodeIdToTextIn_leaves hsize nodeId⟩
  intro hdiffer model held alarm hheld halarm
  have hkey : held.key ≠ alarm.key := by
    intro hkey
    have htext : held.sourceNodeId.text = alarm.sourceNodeId.text := congrArg Prod.fst hkey
    rw [hheld, halarm] at htext
    exact hdiffer (hsame.mp (CharArray.ext_text htext))
  exact ⟨hkey, fun hmem => mem_updateAlarm_of_key_ne hmem hkey⟩

/-- A string that looks like the end of another NodeId does not have its text. -/
theorem nodeIdToText_key_imitation :
    NodeId.text ⟨1, .string (some (ascii "x;i=7"))⟩ ≠ NodeId.text ⟨1, .numeric 7⟩ := by
  have hstring : NodeId.Renders ⟨1, .string (some (ascii "x;i=7"))⟩ := by
    refine ⟨by decide +kernel, fun value hvalue => ?_⟩
    obtain rfl := Identifier.string.inj hvalue
    decide
  intro htext
  exact absurd ((nodeIdToText_key _ _ hstring (NodeId.renders_numeric 1 7)).1.mp htext) (by decide)

/-- A string without data and the empty string are different NodeIds with one text. -/
theorem nodeIdToText_missing_string :
    NodeId.Renders ⟨1, .string none⟩ ∧ NodeId.Renders ⟨1, .string (some [])⟩ ∧
      (⟨1, .string none⟩ : NodeId) ≠ ⟨1, .string (some [])⟩ ∧
      NodeId.text ⟨1, .string none⟩ = NodeId.text ⟨1, .string (some [])⟩ := by
  refine ⟨⟨by decide +kernel, ?_⟩, ⟨by decide +kernel, ?_⟩, by decide, by decide +kernel⟩
  · intro value hvalue
    obtain rfl := Identifier.string.inj hvalue
    exact List.not_mem_nil
  · intro value hvalue
    obtain rfl := Identifier.string.inj hvalue
    exact List.not_mem_nil

end CrowPanel.OpcUa
