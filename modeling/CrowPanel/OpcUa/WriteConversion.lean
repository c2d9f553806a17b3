import CrowPanel.Library.IntegerConversion
import CrowPanel.OpcUa.WriteQueue

/-!
# The value of a write

`process_write_requests` converts the number of a request to every type that a tag can have, before
it looks at the type of the tag at hand, and then writes the value of that type.

What a conversion computes that C leaves undefined is a parameter.  `conversions` lists the
conversions that are made, so a statement can also ask that each of them is defined.
-/

namespace CrowPanel.OpcUa

open Library DataModel

/-! ## Integer scalars -/

/-- The integer type of an entry of `UA_TYPES`. -/
def BuiltinType.integerType : BuiltinType → Option IntegerType
  | .sByte => some ⟨true, 8⟩
  | .byte => some ⟨false, 8⟩
  | .int16 => some ⟨true, 16⟩
  | .uInt16 => some ⟨false, 16⟩
  | .int32 => some ⟨true, 32⟩
  | .uInt32 => some ⟨false, 32⟩
  | .int64 => some ⟨true, 64⟩
  | .uInt64 => some ⟨false, 64⟩
  | .boolean | .float | .double | .string => none

/-- The integer in a scalar of an integer type. -/
def Variant.integer : Variant → Option ℤ
  | .sByte value => some value.toInt
  | .byte value => some value.toNat
  | .int16 value => some value.toInt
  | .uInt16 value => some value.toNat
  | .int32 value => some value.toInt
  | .uInt32 value => some value.toNat
  | .int64 value => some value.toInt
  | .uInt64 value => some value.toNat
  | _ => none

/-- A scalar of an integer type; a value that the type does not have wraps. -/
def BuiltinType.integerScalar : BuiltinType → ℤ → Variant
  | .sByte, value => .sByte (.ofInt value)
  | .byte, value => .byte (.ofInt value)
  | .int16, value => .int16 (.ofInt value)
  | .uInt16, value => .uInt16 (.ofInt value)
  | .int32, value => .int32 (.ofInt value)
  | .uInt32, value => .uInt32 (.ofInt value)
  | .int64, value => .int64 (.ofInt value)
  | .uInt64, value => .uInt64 (.ofInt value)
  | .boolean, _ | .float, _ | .double, _ | .string, _ => .other

/-- What a scalar of an integer type holds is a value of the type. -/
theorem holds_of_integer {builtin : BuiltinType} {type : IntegerType} {value integer : ℤ}
    (htype : builtin.integerType = some type)
    (hinteger : (builtin.integerScalar value).integer = some integer) : type.Holds integer := by
  cases builtin <;>
    simp only [BuiltinType.integerType, Option.some.injEq, reduceCtorEq] at htype <;>
    obtain rfl := htype <;> obtain rfl := Option.some.inj hinteger
  case sByte => exact ⟨Int8.le_toInt _, Int.le_sub_one_of_lt (Int8.toInt_lt _)⟩
  case int16 => exact ⟨Int16.le_toInt _, Int.le_sub_one_of_lt (Int16.toInt_lt _)⟩
  case int32 => exact ⟨Int32.le_toInt _, Int.le_sub_one_of_lt (Int32.toInt_lt _)⟩
  case int64 => exact ⟨Int64.le_toInt _, Int.le_sub_one_of_lt (Int64.toInt_lt _)⟩
  case byte =>
    exact ⟨Int.natCast_nonneg _, Int.le_sub_one_of_lt (mod_cast (UInt8.ofInt value).toNat_lt)⟩
  case uInt16 =>
    exact ⟨Int.natCast_nonneg _, Int.le_sub_one_of_lt (mod_cast (UInt16.ofInt value).toNat_lt)⟩
  case uInt32 =>
    exact ⟨Int.natCast_nonneg _, Int.le_sub_one_of_lt (mod_cast (UInt32.ofInt value).toNat_lt)⟩
  case uInt64 =>
    exact ⟨Int.natCast_nonneg _, Int.le_sub_one_of_lt (mod_cast (UInt64.ofInt value).toNat_lt)⟩

theorem integer_integerScalar {builtin : BuiltinType} {type : IntegerType} {value : ℤ}
    (htype : builtin.integerType = some type) (hholds : type.Holds value) :
    (builtin.integerScalar value).integer = some value := by
  obtain ⟨hlow, hhigh⟩ := hholds
  cases builtin <;>
    simp only [BuiltinType.integerType, Option.some.injEq, reduceCtorEq] at htype <;>
    obtain rfl := htype <;> refine congrArg some ?_
  case sByte => exact Int8.toInt_ofInt_of_le hlow (Int.lt_of_le_sub_one hhigh)
  case int16 => exact Int16.toInt_ofInt_of_le hlow (Int.lt_of_le_sub_one hhigh)
  case int32 => exact Int32.toInt_ofInt_of_le hlow (Int.lt_of_le_sub_one hhigh)
  case int64 => exact Int64.toInt_ofInt_of_le hlow (Int.lt_of_le_sub_one hhigh)
  all_goals
    simp only [IntegerType.least, IntegerType.greatest, Bool.false_eq_true, if_false] at hlow hhigh
  case byte => simp [UInt8.ofInt]; omega
  case uInt16 => simp [UInt16.ofInt]; omega
  case uInt32 => simp [UInt32.ofInt]; omega
  case uInt64 => simp [UInt64.ofInt]; omega

/-! ## Requests -/

/-- The types to which the number of a request is converted. -/
def convertedTypes : List IntegerType :=
  [⟨true, 8⟩, ⟨false, 8⟩, ⟨true, 16⟩, ⟨false, 16⟩, ⟨true, 32⟩, ⟨false, 32⟩, ⟨true, 64⟩, ⟨false, 64⟩]

/-- The checks of `process_write_requests` before it prepares the value. -/
def passesChecks (context : Context) (request : WriteRequest) : Bool :=
  match request.tagIndex with
  | none => false
  | some tagIndex =>
      tagIndex < context.tagNodeIds.length && (context.dataModel.getTag tagIndex).any Tag.writable

/-- The conversions to integer types that `process_write_requests` makes for a request. -/
def conversions (context : Context) (request : WriteRequest) : List (IntegerType × Double) :=
  if passesChecks context request then
    convertedTypes.map fun type => (type, request.numericValue)
  else []

section

variable (undefinedConversion : IntegerType → Double → ℤ) (toFloat : Double → Double)

/-- A conversion by a cast. -/
def castTo (type : IntegerType) (value : Double) : ℤ :=
  (type.convert value).getD (undefinedConversion type value)

/-- The variable that `process_write_requests` prepares for a type. -/
def preparedValue (request : WriteRequest) : BuiltinType → Variant
  | .boolean => .boolean request.booleanValue
  | .float => .float (toFloat request.numericValue)
  | .double => .double request.numericValue
  | .string => .other
  | builtin =>
      (builtin.integerType.map fun type =>
        builtin.integerScalar (castTo undefinedConversion type request.numericValue)).getD .other

/-- The write that is issued for a request, with its value. -/
def issuedWrite (context : Context) (request : WriteRequest) : Option (WriteCall × Variant) :=
  (processWriteRequest context request).map fun call =>
    (call, preparedValue undefinedConversion toFloat request call.type)

/-- Every conversion is defined, and what is written to a tag of an integer type is the integral part
of the requested value. -/
structure ConvertsExactly (context : Context) (request : WriteRequest) (value : ℚ) : Prop where
  defined : ∀ conversion ∈ conversions context request,
    (conversion.1.convert conversion.2).isSome
  exact : ∀ call sent, issuedWrite undefinedConversion toFloat context request = some (call, sent) →
    sent.integer = some (Double.integralPart value) ∧
      ∃ type, call.type.integerType = some type ∧ type.Holds (Double.integralPart value)

end

/-! ## What is written -/

variable {undefinedConversion : IntegerType → Double → ℤ} {toFloat : Double → Double}
  {context : Context} {request : WriteRequest} {call : WriteCall}

theorem passesChecks_of_processWriteRequest
    (hcall : processWriteRequest context request = some call) :
    passesChecks context request = true := by
  obtain ⟨⟨tagIndex, tag, hindex, hmapped, htag, hwritable, -⟩, -⟩ :=
    processWriteRequest_eq_some_iff.mp hcall
  simp [passesChecks, hindex, hmapped, htag, hwritable]

theorem conversions_of_passesChecks (hpasses : passesChecks context request = true) :
    conversions context request = convertedTypes.map fun type => (type, request.numericValue) :=
  if_pos hpasses

theorem castTo_of_holds {type : IntegerType} {value : ℚ}
    (hholds : type.Holds (Double.integralPart value)) :
    castTo undefinedConversion type (.finite value) = Double.integralPart value := by
  rw [castTo, IntegerType.convert_eq_some_iff.mpr ⟨Double.truncate_finite value, hholds⟩,
    Option.getD_some]

theorem preparedValue_of_integerType {builtin : BuiltinType} {type : IntegerType}
    (htype : builtin.integerType = some type) :
    preparedValue undefinedConversion toFloat request builtin =
      builtin.integerScalar (castTo undefinedConversion type request.numericValue) := by
  cases builtin <;> cases htype <;> rfl

/-- A number is written in the type of the tag. -/
theorem type_of_processWriteRequest {tagIndex : ℕ} {value : Double} {target : NodeId}
    {builtin : BuiltinType}
    (htype : context.tagBuiltinTypeIndices.getD tagIndex none = some builtin)
    (hcall : processWriteRequest context (numberRequest (some tagIndex) value target) = some call) :
    call.type = builtin := by
  obtain ⟨-, -, -, index, hindex, hwrites⟩ := processWriteRequest_eq_some_iff.mp hcall
  obtain rfl : tagIndex = index := Option.some.inj hindex
  rw [htype, WriteRequestType.writes, Option.filter_eq_some_iff] at hwrites
  exact (Option.some.inj hwrites.1).symm

/-- The values that all eight types have. -/
theorem holds_convertedTypes_iff {value : ℤ} :
    (∀ type ∈ convertedTypes, type.Holds value) ↔ 0 ≤ value ∧ value ≤ 127 := by
  simp only [convertedTypes, List.forall_mem_cons, IntegerType.Holds, IntegerType.least,
    IntegerType.greatest]
  constructor
  · rintro ⟨⟨-, hhigh⟩, ⟨hlow, -⟩, -⟩
    exact ⟨hlow, by simpa using hhigh⟩
  · rintro ⟨hlow, hhigh⟩
    norm_num
    omega

/-- The number of a request to a tag of an integer type is converted as it should if and only if its
integral part is a value of all eight types, or no conversion is made. -/
theorem convertsExactly_iff (undefinedConversion : IntegerType → Double → ℤ)
    (toFloat : Double → Double) {context : Context} {tagIndex : ℕ} {builtin : BuiltinType}
    {type : IntegerType}
    (hbuiltin : context.tagBuiltinTypeIndices.getD tagIndex none = some builtin)
    (htype : builtin.integerType = some type) (value : ℚ) (target : NodeId) :
    ConvertsExactly undefinedConversion toFloat context
        (numberRequest (some tagIndex) (.finite value) target) value ↔
      (passesChecks context (numberRequest (some tagIndex) (.finite value) target) = true →
        0 ≤ Double.integralPart value ∧ Double.integralPart value ≤ 127) := by
  constructor
  · intro hexact hpasses
    -- every conversion is made, whatever the type of the tag is
    refine holds_convertedTypes_iff.mp fun converted hmem => ?_
    have hdefined := hexact.defined (converted, .finite value) (by
      rw [conversions_of_passesChecks hpasses]
      exact List.mem_map_of_mem hmem)
    exact Double.convert_finite_isSome_iff.mp hdefined
  · intro hbounds
    refine ⟨fun conversion hmem => ?_, fun call sent hissued => ?_⟩
    · unfold conversions at hmem
      split at hmem
      · next hpasses =>
          obtain ⟨converted, hconverted, rfl⟩ := List.mem_map.mp hmem
          exact Double.convert_finite_isSome_iff.mpr
            (holds_convertedTypes_iff.mpr (hbounds hpasses) converted hconverted)
      · cases hmem
    · obtain ⟨issued, hcall, hsame⟩ := Option.map_eq_some_iff.mp hissued
      obtain ⟨rfl, rfl⟩ := Prod.mk.inj hsame
      have hbound := hbounds (passesChecks_of_processWriteRequest hcall)
      have hcallType := type_of_processWriteRequest hbuiltin hcall
      have hmem : type ∈ convertedTypes := by
        cases builtin <;> cases htype <;> simp [convertedTypes]
      have hholds := holds_convertedTypes_iff.mpr hbound type hmem
      refine ⟨?_, type, hcallType ▸ htype, hholds⟩
      rw [hcallType, preparedValue_of_integerType htype]
      have hcast : castTo undefinedConversion type
          (numberRequest (some tagIndex) (.finite value) target).numericValue =
            Double.integralPart value := castTo_of_holds hholds
      rw [hcast]
      exact integer_integerScalar htype hholds

/-- A client with one writable tag, of type Byte. -/
private def levelContext : Context where
  configuration := ⟨4, 4, 4⟩
  dataModel := { DataModel.empty 4 4 with tags := [{ dataType := .integer, writable := true }] }
  tagNodeIds := [⟨1, .numeric 7⟩]
  tagBuiltinTypeIndices := [some .byte]

/-- 200 is a value of the type of the tag, but on the way to it the number is also converted to an
`SByte`, which has no such value. -/
theorem levelContext_not_exact :
    (IntegerType.mk false 8).Holds (Double.integralPart 200) ∧
      ¬ConvertsExactly (fun _ _ => 0) id levelContext
        (numberRequest (some 0) (.finite 200) ⟨1, .numeric 7⟩) 200 := by
  refine ⟨by decide +kernel, fun hexact => ?_⟩
  have hmade : (⟨true, 8⟩, .finite 200) ∈ conversions levelContext
      (numberRequest (some 0) (.finite 200) ⟨1, .numeric 7⟩) := by decide +kernel
  exact absurd (hexact.defined _ hmade) (by decide +kernel)

/-- 100 is a value of all types. -/
theorem levelContext_exact :
    ConvertsExactly (fun _ _ => 0) id levelContext
      (numberRequest (some 0) (.finite 100) ⟨1, .numeric 7⟩) 100 :=
  (convertsExactly_iff (fun _ _ => 0) id rfl rfl 100 ⟨1, .numeric 7⟩).mpr fun _ => by
    decide +kernel

end CrowPanel.OpcUa
