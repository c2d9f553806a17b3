import CrowPanel.Library.CText
import Mathlib.Data.List.OfFn

/-!
# The DNS server of the portal

While the portal has an access point of its own, `dns_server_task` answers every question with the
address of the panel.  It walks over the name in the question, copies the question, and appends an
answer.  All its reads are inside the datagram.  The answer is appended without a look at the room that
is left for it.

## Strategy

`NameEnds` says where a name ends, without the walk: `skipQuestionName` finds the end if there is one
inside the datagram, and otherwise stops at the end of the datagram, which is then dropped.
-/

namespace CrowPanel.Settings

open Library

/-- The size of the buffers `rx` and `tx`. -/
abbrev dnsBufferSize : ℕ := 512

/-- `dns_skip_question_name`, with the indices that it reads. -/
def skipQuestionName (packet : Text) (offset : ℕ) : ℕ × List ℕ :=
  if hinside : offset < packet.length then
    let len := packet[offset]
    if len = 0 then (offset + 1, [offset])
    else if len &&& 0xC0 = 0xC0 then (offset + 2, [offset])
    else
      let (nameEnd, reads) := skipQuestionName packet (offset + len.toNat + 1)
      (nameEnd, offset :: reads)
  else (packet.length, [])
termination_by packet.length - offset

/-- What `dns_server_task` does with a datagram: the indices of `rx` that it reads, and the bytes that
it stores in `tx` from index 0 on, one after the other. -/
structure DnsHandling where
  reads : List ℕ := []
  tx : Text := []
  /-- Whether `tx` is sent. -/
  answered : Bool := false
  deriving DecidableEq

/-- The indices of `tx` that are written. -/
def DnsHandling.writes (handling : DnsHandling) : List ℕ :=
  List.range handling.tx.length

/-- The type of the question whose name ends before an index. -/
def questionType (rx : Text) (qnameEnd : ℕ) : UInt16 :=
  (rx.getD qnameEnd 0).toUInt16 <<< 8 ||| (rx.getD (qnameEnd + 1) 0).toUInt16

/-- Whether a question of some type is answered with an address. -/
def answersA (qtype : UInt16) : Bool :=
  qtype = 1 || qtype = 255

/-- The pass of the loop in `dns_server_task` for a datagram that has been received -/
def handleDatagram (apIpAddr : Fin 4 → UInt8) (rx : Text) : DnsHandling :=
  if rx.length < 12 then {}
  else
    let (qnameEnd, reads) := skipQuestionName rx 12
    if rx.length < qnameEnd + 4 then { reads }
    else
      let answerA := answersA (questionType rx qnameEnd)
      let questionLen := qnameEnd + 4 - 12
      let header := rx.take 2 ++
        [0x81, 0x80, 0x00, 0x01, 0x00, if answerA then 0x01 else 0x00, 0x00, 0x00, 0x00, 0x00]
      let answer :=
        if answerA then
          [0xC0, 0x0C, 0x00, 0x01, 0x00, 0x01, 0x00, 0x00, 0x00, 0x3C, 0x00, 0x04] ++
            List.ofFn apIpAddr
        else []
      { reads := reads ++ [qnameEnd, qnameEnd + 1, 0, 1] ++ List.range' 12 questionLen
        tx := header ++ (rx.drop 12).take questionLen ++ answer
        answered := true }

/-! ## The name in a question -/

/-- A name that starts at some index ends before another: its labels lead to the root or to a pointer
inside the packet. -/
inductive NameEnds (packet : Text) : ℕ → ℕ → Prop
  | root {offset : ℕ} (hroot : packet[offset]? = some 0) : NameEnds packet offset (offset + 1)
  | pointer {offset : ℕ} {len : UInt8} (hlen : packet[offset]? = some len)
      (hpointer : len &&& 0xC0 = 0xC0) : NameEnds packet offset (offset + 2)
  | label {offset nameEnd : ℕ} {len : UInt8} (hlen : packet[offset]? = some len) (hroot : len ≠ 0)
      (hpointer : len &&& 0xC0 ≠ 0xC0) (hrest : NameEnds packet (offset + len.toNat + 1) nameEnd) :
      NameEnds packet offset nameEnd

variable {packet rx : Text} {offset nameEnd : ℕ}

theorem NameEnds.lt (hends : NameEnds packet offset nameEnd) : offset < nameEnd := by
  induction hends with
  | root | pointer => omega
  | label _ _ _ _ ih => omega

/-- The walk finds the end of the name. -/
theorem NameEnds.skipQuestionName_eq (hends : NameEnds packet offset nameEnd) :
    (skipQuestionName packet offset).1 = nameEnd := by
  induction hends with
  | root hroot =>
      obtain ⟨hinside, hbyte⟩ := List.getElem?_eq_some_iff.mp hroot
      rw [skipQuestionName, dif_pos hinside]
      simp [hbyte]
  | @pointer offset len hlen hpointer =>
      obtain ⟨hinside, hbyte⟩ := List.getElem?_eq_some_iff.mp hlen
      have hroot : len ≠ 0 := by
        rintro rfl
        exact absurd hpointer (by decide)
      rw [skipQuestionName, dif_pos hinside]
      simp only [hbyte, if_neg hroot, if_pos hpointer]
  | label hlen hroot hpointer hrest ih =>
      obtain ⟨hinside, hbyte⟩ := List.getElem?_eq_some_iff.mp hlen
      rw [skipQuestionName, dif_pos hinside]
      simp only [hbyte, if_neg hroot, if_neg hpointer]
      exact ih

/-- Where the walk ends: behind a name, or at the end of the packet. -/
theorem skipQuestionName_spec (packet : Text) (offset : ℕ) :
    (∀ index ∈ (skipQuestionName packet offset).2, index < packet.length) ∧
      (NameEnds packet offset (skipQuestionName packet offset).1 ∨
        (skipQuestionName packet offset).1 = packet.length) := by
  fun_induction skipQuestionName packet offset with
  | case1 offset hinside len hroot =>
      refine ⟨by simpa using hinside, Or.inl (.root ?_)⟩
      rw [List.getElem?_eq_getElem hinside, ← hroot]
  | case2 offset hinside len hroot hpointer =>
      exact ⟨by simpa using hinside, Or.inl (.pointer (List.getElem?_eq_getElem hinside) hpointer)⟩
  | case3 offset hinside len hroot hpointer nameEnd reads hrest ih =>
      rw [hrest] at ih
      refine ⟨List.forall_mem_cons.mpr ⟨hinside, ih.1⟩, ih.2.imp_left fun hends => ?_⟩
      exact .label (List.getElem?_eq_getElem hinside) hroot hpointer hends
  | case4 offset hinside => exact ⟨List.forall_mem_nil _, Or.inr rfl⟩

/-! ## Main theorem -/

/-- A question that is answered with an address, and that leaves less than 16 bytes of `tx`. -/
def Overlong (rx : Text) : Prop :=
  ∃ qnameEnd, NameEnds rx 12 qnameEnd ∧ qnameEnd + 4 ≤ rx.length ∧
    answersA (questionType rx qnameEnd) = true ∧ dnsBufferSize < qnameEnd + 20

theorem length_tx {apIpAddr : Fin 4 → UInt8} {qnameEnd : ℕ} (hends : NameEnds rx 12 qnameEnd)
    (hinside : qnameEnd + 4 ≤ rx.length) :
    (handleDatagram apIpAddr rx).tx.length =
      qnameEnd + 4 + if answersA (questionType rx qnameEnd) then 16 else 0 := by
  have hstart := hends.lt
  have hheader : ¬rx.length < 12 := by omega
  have hquestion : ¬rx.length < qnameEnd + 4 := by omega
  simp only [handleDatagram, if_neg hheader, hends.skipQuestionName_eq, if_neg hquestion,
    List.length_append, List.length_take, List.length_drop, List.length_cons, List.length_nil]
  split
  · simp only [List.length_append, List.length_cons, List.length_nil, List.length_ofFn]
    omega
  · simp only [List.length_nil]
    omega

/-- A datagram that is dropped is not answered. -/
theorem tx_of_dropped {apIpAddr : Fin 4 → UInt8}
    (hdropped : rx.length < (skipQuestionName rx 12).1 + 4) : (handleDatagram apIpAddr rx).tx = [] := by
  unfold handleDatagram
  split
  · rfl
  · simp only [if_pos hdropped]

theorem handleDatagram_reads (apIpAddr : Fin 4 → UInt8) (rx : Text) :
    ∀ index ∈ (handleDatagram apIpAddr rx).reads, index < rx.length := by
  obtain ⟨hwalk, -⟩ := skipQuestionName_spec rx 12
  rcases hskip : skipQuestionName rx 12 with ⟨qnameEnd, reads⟩
  rw [hskip] at hwalk
  unfold handleDatagram
  rw [hskip]
  split
  · exact List.forall_mem_nil _
  dsimp only
  split
  · exact hwalk
  · next hheader hquestion =>
      intro index hindex
      simp only [List.mem_append, List.mem_cons, List.not_mem_nil, or_false,
        List.mem_range'_1] at hindex
      rcases hindex with (hname | hfixed) | hcopied
      · exact hwalk index hname
      · omega
      · omega

/-- For every datagram that fits into `rx`: all reads are inside the datagram, and all writes are
inside `tx` exactly if the question is not overlong. -/
theorem dns_inBounds_iff (apIpAddr : Fin 4 → UInt8) {rx : Text} (hlength : rx.length ≤ dnsBufferSize) :
    (∀ index ∈ (handleDatagram apIpAddr rx).reads, index < rx.length) ∧
      ((∀ index ∈ (handleDatagram apIpAddr rx).writes, index < dnsBufferSize) ↔ ¬Overlong rx) := by
  refine ⟨handleDatagram_reads apIpAddr rx, ?_⟩
  have hwrites : (∀ index ∈ (handleDatagram apIpAddr rx).writes, index < dnsBufferSize) ↔
      (handleDatagram apIpAddr rx).tx.length ≤ dnsBufferSize := by
    simp only [DnsHandling.writes, List.mem_range]
    constructor
    · intro hall
      by_contra hlong
      have hlast := hall ((handleDatagram apIpAddr rx).tx.length - 1) (by omega)
      omega
    · intro hshort index hindex
      omega
  rw [hwrites]
  by_cases hname : ∃ qnameEnd, NameEnds rx 12 qnameEnd ∧ qnameEnd + 4 ≤ rx.length
  · obtain ⟨qnameEnd, hends, hinside⟩ := hname
    have hoverlong : Overlong rx ↔
        answersA (questionType rx qnameEnd) = true ∧ dnsBufferSize < qnameEnd + 20 := by
      constructor
      · rintro ⟨other, hother, -, hanswer⟩
        obtain rfl : qnameEnd = other :=
          hends.skipQuestionName_eq.symm.trans hother.skipQuestionName_eq
        exact hanswer
      · exact fun hanswer => ⟨qnameEnd, hends, hinside, hanswer⟩
    rw [hoverlong, length_tx hends hinside]
    cases answersA (questionType rx qnameEnd) with
    | true =>
        simp only [if_true, true_and]
        omega
    | false =>
        simp only [Bool.false_eq_true, if_false, false_and, not_false_eq_true, iff_true]
        omega
  · have hdropped : rx.length < (skipQuestionName rx 12).1 + 4 := by
      rcases (skipQuestionName_spec rx 12).2 with hends | hend
      · by_contra hinside
        exact hname ⟨_, hends, not_lt.mp hinside⟩
      · omega
    rw [tx_of_dropped hdropped]
    refine iff_of_true (by simp) ?_
    rintro ⟨qnameEnd, hends, hinside, -⟩
    exact hname ⟨qnameEnd, hends, hinside⟩

/-- A question of some type for a name of one label. -/
def shortQuestion (qtype : UInt8) : Text :=
  List.replicate 12 0 ++ 5 :: ascii "panel" ++ [0, 0, qtype, 0, 1]

/-- The answer to a short question stays within the buffer. -/
theorem dns_inBounds_iff_short :
    (∀ index ∈ (handleDatagram (fun _ => 1) (shortQuestion 1)).reads,
        index < (shortQuestion 1).length) ∧
      ∀ index ∈ (handleDatagram (fun _ => 1) (shortQuestion 1)).writes, index < dnsBufferSize := by
  have hname : NameEnds (shortQuestion 1) 12 19 :=
    .label (show (shortQuestion 1)[12]? = some 5 from rfl) (by decide) (by decide) (.root rfl)
  obtain ⟨hreads, hwrites⟩ := @dns_inBounds_iff (fun _ => 1) (shortQuestion 1) (by decide)
  refine ⟨hreads, hwrites.mpr ?_⟩
  rintro ⟨qnameEnd, hends, -, -, hlong⟩
  obtain rfl : 19 = qnameEnd := hname.skipQuestionName_eq.symm.trans hends.skipQuestionName_eq
  exact absurd hlong (by decide)

/-- A question for the address of a name of seven labels of 63 bytes and one of 31. -/
def longQuestion : Text :=
  List.replicate 12 0 ++ (List.replicate 7 (63 :: List.replicate 63 0x61)).flatten ++
    31 :: List.replicate 31 0x61 ++ [0, 0, 1, 0, 1]

theorem longQuestion_overruns : longQuestion.length ≤ dnsBufferSize ∧
    ¬∀ index ∈ (handleDatagram (fun _ => 1) longQuestion).writes, index < dnsBufferSize := by
  constructor <;> decide +kernel

end CrowPanel.Settings
