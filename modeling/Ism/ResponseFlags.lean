import Ism.Responder

namespace Ism

/-- The flag word in a message that is written at the front of a buffer. -/
def flagWord (buffer : List UInt8) : UInt16 := u16FromBe (buffer.getD 2 0) (buffer.getD 3 0)

theorem flagWord_serializeHeaderBytes (h : Header) (rest : List UInt8) :
    flagWord (serializeHeaderBytes h ++ rest) = flagsToU16 h.flags :=
  u16FromBe_u16Hi_u16Lo (flagsToU16 h.flags)

/-- The constant that the worker writes into a format error. -/
theorem flagWord_formErrResponse (q rest : List UInt8) : flagWord (formErrResponse q ++ rest) = 0x8101 := by
  have octets : flagWord (formErrResponse q ++ rest) = u16FromBe 0x81 0x01 := rfl
  rw [octets]
  decide

/-- The constant is right for the flags that it was made for. -/
theorem formErr_flags_iff (h : Header) : 0x8101 = flagsToU16 (responseFlagsFromRequest h .formErr) ↔
    h.flags.opcode.val = 0 ∧ h.flags.rd = true ∧ h.flags.cd = false := by
  have small := h.flags.opcode.property
  have rcode : (rcodeToU4 .formErr).val.toNat = 1 := rfl
  have word : (0x8101 : UInt16).toNat = 33025 := rfl
  have zero : h.flags.opcode.val = 0 ↔ h.flags.opcode.val.toNat = 0 := UInt16.toNat_inj.symm
  rw [← UInt16.toNat_inj, responseFlags_toNat, rcode, word, zero]
  cases h.flags.rd <;> cases h.flags.cd <;> simp only [Bool.toNat_true, Bool.toNat_false, Bool.false_eq_true,
    Bool.true_eq_false, and_true, and_false, iff_false]
  all_goals omega

section Branches

variable {check : Nat → List UInt8 → UInt8} {q old responseBuffer : List UInt8} {responseCapacity : Nat}

theorem validateMinimalUncompressedQuestionRequest_length {requestBuffer : List UInt8} {requestLen : Nat}
    (valid : validateMinimalUncompressedQuestionRequest check requestBuffer requestLen = true) :
    17 ≤ requestLen ∧ requestLen ≤ 271 := by
  rw [validateMinimalUncompressedQuestionRequest] at valid
  split at valid
  · cases valid
  · omega

/-- On a request with a zero ID the worker takes the branch that its validator says. -/
theorem prepareWorkerValidatedMinimalResponseSend_branch (long : 12 ≤ q.length) (idHi : q.getD 0 0 = 0)
    (idLo : q.getD 1 0 = 0) :
    prepareWorkerValidatedMinimalResponseSend check (q ++ old) responseBuffer responseCapacity q.length =
      if takesNoerrorBranch check (q ++ old) q.length = true then
        prepareWorkerQuestionNoerrorResponseSend (q ++ old) responseBuffer responseCapacity q.length
      else prepareWorkerMinimalErrorResponseSend (q ++ old) responseBuffer responseCapacity q.length := by
  rw [prepareWorkerValidatedMinimalResponseSend, takesNoerrorBranch, validDoqRequestId_append old long idHi idLo,
    Bool.true_and, if_neg Bool.true_eq_false.mp]

end Branches

/-- The flags of the response are those of the packet model for every accepted request. A
rejected one is answered with a constant, which agrees for a single setting of its flags. -/
theorem response_flags_agree_iff (check : Nat → List UInt8 → UInt8) (q scBuf responseBuffer : List UInt8)
    (responseCapacity : Nat) (held : q <+: scBuf) (long : 12 ≤ q.length) (idHi : q.getD 0 0 = 0) (idLo : q.getD 1 0 = 0)
    (room : max q.length 12 ≤ responseCapacity) (fits : responseCapacity ≤ responseBuffer.length) (h : Header)
    (rest : List UInt8) (parsed : parseHeaderBytes q = some (h, rest)) :
    flagWord (prepareWorkerValidatedMinimalResponseSend check scBuf responseBuffer responseCapacity q.length).2 =
        flagsToU16 (responseFlagsFromRequest h
          (if takesNoerrorBranch check scBuf q.length = true then .noError else .formErr)) ↔
      takesNoerrorBranch check scBuf q.length = true ∨
        (h.flags.opcode.val = 0 ∧ h.flags.rd = true ∧ h.flags.cd = false) := by
  obtain ⟨old, rfl⟩ := held
  have whole := parseHeaderBytes_eq_some_iff.mp parsed
  rw [prepareWorkerValidatedMinimalResponseSend_branch long idHi idLo]
  by_cases accepted : takesNoerrorBranch check (q ++ old) q.length = true
  · rw [if_pos accepted, if_pos accepted]
    rw [takesNoerrorBranch, Bool.and_eq_true] at accepted
    obtain ⟨low, high⟩ := validateMinimalUncompressedQuestionRequest_length accepted.2
    rw [prepareWorkerQuestionNoerrorResponseSend_eq whole low high (by omega) fits, List.append_assoc,
      flagWord_serializeHeaderBytes]
    refine ⟨fun _ => Or.inl ?_, fun _ => rfl⟩
    rw [takesNoerrorBranch, Bool.and_eq_true]
    exact accepted
  · rw [if_neg accepted, if_neg accepted, prepareWorkerMinimalErrorResponseSend_eq long (by omega) fits,
      flagWord_formErrResponse, formErr_flags_iff]
    exact ⟨Or.inr, fun either => either.resolve_left accepted⟩

/-- A query without a question that asks for recursion gets the flags of the packet model. -/
theorem response_flags_agree_empty_query :
    let q : List UInt8 := [0, 0, 1, 0, 0, 0, 0, 0, 0, 0, 0, 0]
    ∃ h rest, parseHeaderBytes q = some (h, rest) ∧ takesNoerrorBranch checkQuestion q 12 = false ∧
      flagWord (prepareWorkerValidatedMinimalResponseSend checkQuestion q (List.replicate 16 255) 16 12).2 =
        flagsToU16 (responseFlagsFromRequest h .formErr) := by
  intro q
  have rejected : takesNoerrorBranch checkQuestion q 12 = false := by decide +kernel
  refine ⟨_, _, rfl, rejected, ?_⟩
  have agree := (response_flags_agree_iff checkQuestion q q (List.replicate 16 255) 16 (List.prefix_refl q) (by decide)
    rfl rfl (by decide) (by decide) _ _ rfl).mpr (Or.inr ⟨rfl, rfl, rfl⟩)
  have rejected' : ¬ takesNoerrorBranch checkQuestion q q.length = true := by
    rw [Bool.not_eq_true]
    exact rejected
  rw [if_neg rejected'] at agree
  exact agree

/-- The same query without the wish for recursion is answered as if it had it. -/
theorem error_response_flags_differ :
    let q : List UInt8 := List.replicate 12 0
    ∃ h rest, parseHeaderBytes q = some (h, rest) ∧ takesNoerrorBranch checkQuestion q 12 = false ∧
      (prepareWorkerValidatedMinimalResponseSend checkQuestion q (List.replicate 16 255) 16 12).1 = 12 ∧
      flagWord (prepareWorkerValidatedMinimalResponseSend checkQuestion q (List.replicate 16 255) 16 12).2 ≠
        flagsToU16 (responseFlagsFromRequest h .formErr) := by
  intro q
  exact ⟨_, _, rfl, by decide +kernel, by decide +kernel, by decide +kernel⟩

end Ism
