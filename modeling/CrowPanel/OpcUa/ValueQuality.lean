import CrowPanel.OpcUa.Routing
import CrowPanel.OpcUa.WriteConversion

/-!
# The quality of values

A tag is valid if the last notification for it carried a value of its type and no bad status, and
then the value that is stored is the one that was carried.

## Strategy

A notification changes its tag only, so a sequence of notifications for all tags is for one tag the
fold of its own notifications (`getTag_deliver`).  In such a fold the last notification with a value
decides; those without a value change nothing (`foldl_notified_valueValid`).
-/

namespace CrowPanel.OpcUa

open Library DataModel

/-! ## Notifications -/

/-- The status code is one of the bad ones. -/
def StatusCode.isBad (status : StatusCode) : Bool :=
  0x80000000 ≤ status

/-- `UA_DataValue` with its status, at which `data_change_callback` does not look. -/
structure QualifiedValue extends DataValue where
  hasStatus : Bool := false
  status : StatusCode := .good

namespace QualifiedValue

def isBad (value : QualifiedValue) : Bool :=
  value.hasStatus && value.status.isBad

end QualifiedValue

/-- The built-in type of a scalar. -/
def Variant.builtinType : Variant → Option BuiltinType
  | .boolean _ => some .boolean
  | .sByte _ => some .sByte
  | .byte _ => some .byte
  | .int16 _ => some .int16
  | .uInt16 _ => some .uInt16
  | .int32 _ => some .int32
  | .uInt32 _ => some .uInt32
  | .int64 _ => some .int64
  | .uInt64 _ => some .uInt64
  | .float _ => some .float
  | .double _ => some .double
  | .string _ => some .string
  | .range _ _ | .other => none

/-- A scalar whose built-in type maps to a type of the data model. -/
def Variant.IsScalarOf (variant : Variant) (dataType : DataType) : Prop :=
  ∃ builtin, variant.builtinType = some builtin ∧ mapDataType builtin.typeId = dataType

/-- The value of the model is the value of the variant; a text is cut to the buffer. -/
def Variant.IsValue (value : Value) : Variant → Prop
  | .boolean carried => value.booleanValue = carried
  | .float carried | .double carried => value.numericValue = carried
  | .string carried =>
      value.stringValue.text = (cString (carried.getD [])).take (stringValueLength - 1)
  | variant => variant.integer = some value.integerValue

/-- The tag is valid exactly if the notification carried a scalar of its type without a bad status,
and a valid tag has the value that was carried. -/
structure QualityKept (last : QualifiedValue) (tag : Tag) : Prop where
  valid_iff : tag.valueValid = true ↔
    last.hasValue = true ∧ last.value.IsScalarOf tag.dataType ∧ last.isBad = false
  value_eq : tag.valueValid = true → last.value.IsValue tag.value

/-- The model after `data_change_callback` was called for the items of these tags. -/
def deliver (model : DataModel) (notifications : List (ℕ × QualifiedValue)) : DataModel :=
  notifications.foldl
    (fun model notification =>
      dataChangeCallback model (notification.1 + 1) (some notification.2.toDataValue))
    model

/-- The notifications for the tag at an index. -/
def ownNotifications (index : ℕ) (notifications : List (ℕ × QualifiedValue)) :
    List QualifiedValue :=
  (notifications.filter fun notification => notification.1 = index).map Prod.snd

/-! ## One tag -/

/-- What a notification makes of its tag. -/
def notified (tag : Tag) (value : QualifiedValue) : Tag :=
  if value.hasValue = false then tag
  else
    { tag with
      value := (variantToModelValue value.value tag.dataType).getD {}
      valueValid := (variantToModelValue value.value tag.dataType).isSome }

variable {model : DataModel} {index : ℕ} {tag : Tag} {variant : Variant} {dataType : DataType}

@[simp] theorem notified_dataType (tag : Tag) (value : QualifiedValue) :
    (notified tag value).dataType = tag.dataType := by
  unfold notified
  split <;> rfl

@[simp] theorem foldl_notified_dataType (values : List QualifiedValue) (tag : Tag) :
    (values.foldl notified tag).dataType = tag.dataType := by
  induction values generalizing tag with
  | nil => rfl
  | cons value values ih =>
      rw [List.foldl_cons, ih]
      exact notified_dataType tag value

theorem getTag_dataChangeCallback (value : QualifiedValue) :
    (dataChangeCallback model (index + 1) (some value.toDataValue)).getTag index =
      (model.getTag index).map fun tag => notified tag value := by
  unfold dataChangeCallback
  dsimp only
  rw [Nat.add_sub_cancel]
  cases htag : model.getTag index with
  | none =>
      rw [ite_self, htag]
      rfl
  | some tag =>
      unfold notified
      split
      · exact htag
      · have hplace : index < model.tags.length := (List.getElem?_eq_some_iff.mp htag).1
        have hstored : model.tags[index]? = some tag := htag
        simp only [updateValue, if_neg (not_le.mpr hplace), getTag, List.getElem?_modify_eq,
          hstored]
        rfl

theorem getTag_dataChangeCallback_of_ne {other : ℕ} (value : QualifiedValue)
    (hother : other ≠ index) :
    (dataChangeCallback model (other + 1) (some value.toDataValue)).getTag index =
      model.getTag index := by
  rcases ClientTask.dataChangeCallback_tags model (other + 1) (some value.toDataValue) with
    hsame | ⟨stored, valid, hupdate⟩
  · rw [hsame]
  · rw [hupdate]
    exact ClientTask.updateValue_getTag_of_ne model stored valid hother.symm

/-- Only its own notifications count for a tag. -/
theorem getTag_deliver (notifications : List (ℕ × QualifiedValue))
    (htag : model.getTag index = some tag) :
    (deliver model notifications).getTag index =
      some ((ownNotifications index notifications).foldl notified tag) := by
  induction notifications generalizing model tag with
  | nil => exact htag
  | cons notification notifications ih =>
      obtain ⟨place, value⟩ := notification
      by_cases hplace : place = index
      · subst hplace
        have hafter := @getTag_dataChangeCallback model place value
        rw [htag, Option.map_some] at hafter
        simpa [deliver, ownNotifications] using ih hafter
      · have hafter := (@getTag_dataChangeCallback_of_ne model index place value hplace).trans htag
        simpa [deliver, ownNotifications, hplace] using ih hafter

/-! ## Values -/

theorem isScalarOf_iff {builtin : BuiltinType} (htype : variant.builtinType = some builtin) :
    variant.IsScalarOf dataType ↔ mapDataType builtin.typeId = dataType := by
  simp [Variant.IsScalarOf, htype]

/-- A value is found exactly for the scalars of the type. -/
theorem variantToModelValue_isSome_iff :
    (variantToModelValue variant dataType).isSome = true ↔ variant.IsScalarOf dataType := by
  cases hbuiltin : variant.builtinType with
  | none =>
      have hnot : ¬variant.IsScalarOf dataType := by simp [Variant.IsScalarOf, hbuiltin]
      cases variant <;> cases hbuiltin <;> cases dataType <;>
        simp [variantToModelValue, Variant.toInteger, hnot]
  | some builtin =>
      rw [isScalarOf_iff hbuiltin]
      cases variant <;> cases hbuiltin <;> cases dataType <;>
        simp [variantToModelValue, Variant.toInteger] <;> decide

/-- The value is not one of the integers beyond the range of `int64_t`. -/
def Variant.FitsInt64 : Variant → Prop
  | .uInt64 value => value.toNat < 2 ^ 63
  | _ => True

theorem toInt_toInt64_eq_iff (value : UInt64) :
    (value.toNat : ℤ) = value.toInt64.toInt ↔ value.toNat < 2 ^ 63 := by
  have hlt := value.toNat_lt
  have hvalue : value.toInt64.toInt =
      if 2 * value.toNat < 2 ^ 64 then (value.toNat : ℤ) else value.toNat - 2 ^ 64 := by
    exact BitVec.toInt_eq_toNat_cond value.toBitVec
  rw [hvalue]
  split <;> omega

/-- What is stored is what was carried, unless it does not fit into an `int64_t`. -/
theorem isValue_iff {value : Value} (hvalue : variantToModelValue variant dataType = some value) :
    variant.IsValue value ↔ variant.FitsInt64 := by
  cases dataType <;> cases variant <;>
    simp only [variantToModelValue, Variant.toInteger, Option.map_some, Option.map_none,
      reduceCtorEq, Option.some.injEq] at hvalue
  all_goals obtain rfl := hvalue
  case integer.uInt64 value =>
    simp only [Variant.IsValue, Variant.integer, Variant.FitsInt64, Option.some.injEq]
    exact toInt_toInt64_eq_iff value
  all_goals exact iff_of_true rfl trivial

/-! ## The last notification -/

/-- The last of these notifications that carried a value. -/
def lastCarried (values : List QualifiedValue) : Option QualifiedValue :=
  (values.filter fun value => value.hasValue).getLast?

/-- The tag was valid after these notifications, or without any with a value before them. -/
def ValidAfter (tag : Tag) (values : List QualifiedValue) : Prop :=
  match lastCarried values with
  | some carried => carried.value.IsScalarOf tag.dataType
  | none => tag.valueValid = true

/-- A last notification with a value of the type of the tag has no bad status, and the value fits
into an `int64_t`; one without a value finds the tag not valid. -/
def Conveyed (tag : Tag) (earlier : List QualifiedValue) (last : QualifiedValue) : Prop :=
  if last.hasValue then
    last.value.IsScalarOf tag.dataType → last.isBad = false ∧ last.value.FitsInt64
  else ¬ValidAfter tag earlier

theorem foldl_notified_valueValid (values : List QualifiedValue) (tag : Tag) :
    (values.foldl notified tag).valueValid = true ↔ ValidAfter tag values := by
  induction values using List.reverseRecOn with
  | nil => rfl
  | append_singleton values last ih =>
      rw [List.foldl_append, List.foldl_cons, List.foldl_nil]
      cases hvalue : last.hasValue with
      | false =>
          have hsame : lastCarried (values ++ [last]) = lastCarried values := by
            simp [lastCarried, hvalue]
          unfold ValidAfter at ih ⊢
          rw [hsame, notified, if_pos hvalue]
          exact ih
      | true =>
          have hlast : lastCarried (values ++ [last]) = some last := by
            simp [lastCarried, hvalue]
          unfold ValidAfter
          rw [hlast, notified, if_neg (by simp [hvalue])]
          show _ = true ↔ _
          rw [foldl_notified_dataType]
          exact variantToModelValue_isSome_iff

/-- What a tag is after a notification with a value is right if and only if nothing is wrong with a
value of its type. -/
theorem qualityKept_notified {last : QualifiedValue} (hvalue : last.hasValue = true) :
    QualityKept last (notified tag last) ↔
      (last.value.IsScalarOf tag.dataType → last.isBad = false ∧ last.value.FitsInt64) := by
  have hnotified : notified tag last =
      { tag with
        value := (variantToModelValue last.value tag.dataType).getD {}
        valueValid := (variantToModelValue last.value tag.dataType).isSome } :=
    if_neg (by simp [hvalue])
  rw [hnotified]
  cases hstored : variantToModelValue last.value tag.dataType with
  | none =>
      have hnot : ¬last.value.IsScalarOf tag.dataType := by
        rw [← variantToModelValue_isSome_iff, hstored]
        exact Bool.false_ne_true
      refine iff_of_true ⟨?_, ?_⟩ fun hscalar => absurd hscalar hnot
      · exact iff_of_false Bool.false_ne_true fun hcarried => hnot hcarried.2.1
      · intro hvalid
        cases hvalid
  | some stored =>
      have hscalar : last.value.IsScalarOf tag.dataType := by
        rw [← variantToModelValue_isSome_iff, hstored]
        rfl
      constructor
      · intro hkept _
        refine ⟨(hkept.valid_iff.mp rfl).2.2, ?_⟩
        exact (isValue_iff hstored).mp (hkept.value_eq rfl)
      · intro hright
        obtain ⟨hgood, hfits⟩ := hright hscalar
        refine ⟨iff_of_true rfl ⟨hvalue, hscalar, hgood⟩, fun _ => ?_⟩
        exact (isValue_iff hstored).mpr hfits

/-- After any notifications for any tags, a tag says what the last one for it carried if and only if
that was `Conveyed`. -/
theorem quality_iff_conveyed {notifications : List (ℕ × QualifiedValue)}
    {earlier : List QualifiedValue} {last : QualifiedValue} (htag : model.getTag index = some tag)
    (hown : ownNotifications index notifications = earlier ++ [last]) :
    (∃ after, (deliver model notifications).getTag index = some after ∧ QualityKept last after) ↔
      Conveyed tag earlier last := by
  rw [getTag_deliver notifications htag, hown, List.foldl_append, List.foldl_cons, List.foldl_nil]
  simp only [Option.some.injEq, exists_eq_left']
  unfold Conveyed
  cases hvalue : last.hasValue with
  | true =>
      rw [if_pos rfl, qualityKept_notified hvalue, foldl_notified_dataType]
  | false =>
      rw [if_neg Bool.false_ne_true, notified, if_pos hvalue, ← foldl_notified_valueValid]
      constructor
      · intro hkept hvalid
        have hcarried := (hkept.valid_iff.mp hvalid).1
        rw [hvalue] at hcarried
        cases hcarried
      · intro hinvalid
        refine ⟨iff_of_false hinvalid fun hcarried => ?_, fun hvalid => absurd hvalid hinvalid⟩
        rw [hvalue] at hcarried
        cases hcarried.1

/-- A model with a tag for whether the pump runs. -/
private def runningModel : DataModel :=
  { DataModel.empty 4 4 with tags := [{ dataType := .boolean }] }

/-- The pump runs. -/
private def running : QualifiedValue where
  value := .boolean true

/-- The server has lost the pump: there is no value and a bad status. -/
private def lost : QualifiedValue where
  hasValue := false
  value := .other
  hasStatus := true
  status := 0x80310000

/-- The tag stays valid when the server has lost the pump. -/
theorem lost_not_kept :
    ((deliver runningModel [(0, running), (0, lost)]).getTag 0).map Tag.valueValid = some true ∧
      ¬∃ after, (deliver runningModel [(0, running), (0, lost)]).getTag 0 = some after ∧
        QualityKept lost after := by
  have hvalid : ((deliver runningModel [(0, running), (0, lost)]).getTag 0).map Tag.valueValid =
      some true := by decide +kernel
  refine ⟨hvalid, ?_⟩
  rintro ⟨after, hafter, hkept⟩
  rw [hafter, Option.map_some] at hvalid
  have hcarried := (hkept.valid_iff.mp (Option.some.inj hvalid)).1
  cases hcarried

/-- It is right again when the server reports the pump. -/
theorem running_kept :
    ∃ after, (deliver runningModel [(0, running), (0, lost), (0, running)]).getTag 0 = some after ∧
      QualityKept running after :=
  (@quality_iff_conveyed runningModel 0 { dataType := .boolean } _ [running, lost] running rfl
    rfl).mpr fun _ => ⟨rfl, trivial⟩

end CrowPanel.OpcUa
