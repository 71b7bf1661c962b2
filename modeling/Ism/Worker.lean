import Ism.Lib.Buffer
import Ism.PacketCodec
import Ism.Grammar

namespace Ism

open Lib

def noerrorResponseFlagsHi (requestFlagsHi : UInt8) : UInt8 := 0x80 ||| (requestFlagsHi &&& 0x79)

def noerrorResponseFlagsLo (requestFlagsLo : UInt8) : UInt8 := requestFlagsLo &&& 0x10

/-- The loop of `scanUncompressedQnameLength`; its position grows in every round. -/
def scanUncompressedQnameLengthLoop (requestBuffer : List UInt8) (requestLen : Nat) : Nat → Nat → Nat → Nat
  | 0, _, _ => 0
  | fuel + 1, pos, consumed =>
    if requestLen ≤ pos then 0
    else
      let labelLen := (requestBuffer.getD pos 0).toNat
      if labelLen = 0 then
        if consumed < 255 then consumed + 1 else 0
      else if 63 < labelLen then 0
      else
        let step := 1 + labelLen
        let nextPos := pos + step
        let nextConsumed := consumed + step
        if requestLen < nextPos ∨ 255 < nextConsumed then 0
        else scanUncompressedQnameLengthLoop requestBuffer requestLen fuel nextPos nextConsumed

/-- The length of the uncompressed name at `pos`, or zero. -/
def scanUncompressedQnameLength (requestBuffer : List UInt8) (requestLen pos consumed : Nat) : Nat :=
  scanUncompressedQnameLengthLoop requestBuffer requestLen (requestLen - pos + 1) pos consumed

def validDoqRequestId (requestBuffer : List UInt8) (requestLen : Nat) : Bool :=
  if requestLen < 12 then false
  else decide (requestBuffer.getD 0 0 = 0) && decide (requestBuffer.getD 1 0 = 0)

/-- `check` is the generated validator for `dns_uncompressed_question`; it is given
the name length and the bytes of the question, and answers with a nonzero code. -/
def validateMinimalUncompressedQuestionRequest (check : Nat → List UInt8 → UInt8)
    (requestBuffer : List UInt8) (requestLen : Nat) : Bool :=
  if validDoqRequestId requestBuffer requestLen = false ∨ requestLen < 17 ∨ 271 < requestLen then false
  else if requestBuffer.getD 4 0 = 0 ∧ requestBuffer.getD 5 0 = 1 ∧ requestBuffer.getD 6 0 = 0 ∧
      requestBuffer.getD 7 0 = 0 ∧ requestBuffer.getD 8 0 = 0 ∧ requestBuffer.getD 9 0 = 0 ∧
      requestBuffer.getD 10 0 = 0 ∧ requestBuffer.getD 11 0 = 0 then
    let qnameLength := scanUncompressedQnameLength requestBuffer requestLen 12 0
    if qnameLength = 0 ∨ qnameLength + 16 ≠ requestLen then false
    else
      let questionLen := requestLen - 12
      decide (check qnameLength ((requestBuffer.drop 12).take questionLen) ≠ 0)
  else false

/-- The octets are stored one after another, in the order given. -/
def upd (buffer : List UInt8) (stores : List (Nat × UInt8)) : List UInt8 :=
  stores.foldl (fun buffer store => buffer.set store.1 store.2) buffer

def prepareWorkerMinimalErrorResponseSend (scBuf responseBuffer : List UInt8)
    (responseCapacity requestLen : Nat) : Nat × List UInt8 :=
  if requestLen < 12 ∨ responseCapacity < 12 then (0, responseBuffer)
  else
    (12, upd responseBuffer [(0, scBuf.getD 0 0), (1, scBuf.getD 1 0), (2, 0x81), (4, 0), (5, 0), (6, 0), (7, 0),
      (8, 0), (9, 0), (10, 0), (11, 0), (3, 0x01)])

def copyQuestionBytesLoop (requestBuffer : List UInt8) : Nat → Nat → List UInt8 → List UInt8
  | 0, _, responseBuffer => responseBuffer
  | left + 1, idx, responseBuffer =>
    copyQuestionBytesLoop requestBuffer left (idx + 1)
      (responseBuffer.set (12 + idx) (requestBuffer.getD (12 + idx) 0))

def copyQuestionBytes (requestBuffer responseBuffer : List UInt8) (questionLen idx : Nat) : List UInt8 :=
  copyQuestionBytesLoop requestBuffer (questionLen - idx) idx responseBuffer

def prepareWorkerQuestionNoerrorResponseSend (scBuf responseBuffer : List UInt8)
    (responseCapacity requestLen : Nat) : Nat × List UInt8 :=
  if requestLen < 17 ∨ 271 < requestLen ∨ responseCapacity < requestLen then (0, responseBuffer)
  else
    let copied := copyQuestionBytes scBuf responseBuffer (requestLen - 12) 0
    (requestLen, upd copied [(0, scBuf.getD 0 0), (1, scBuf.getD 1 0), (2, noerrorResponseFlagsHi (scBuf.getD 2 0)),
      (3, noerrorResponseFlagsLo (scBuf.getD 3 0)), (4, 0), (5, 1), (6, 0), (7, 0), (8, 0), (9, 0), (10, 0), (11, 0)])

/-- The response length, zero when nothing is sent, with the new response buffer.
`scBuf` is the memory that the context's message buffer points to. -/
def prepareWorkerValidatedMinimalResponseSend (check : Nat → List UInt8 → UInt8)
    (scBuf responseBuffer : List UInt8) (responseCapacity requestLen : Nat) : Nat × List UInt8 :=
  if validDoqRequestId scBuf requestLen = false then (0, responseBuffer)
  else if validateMinimalUncompressedQuestionRequest check scBuf requestLen then
    prepareWorkerQuestionNoerrorResponseSend scBuf responseBuffer responseCapacity requestLen
  else prepareWorkerMinimalErrorResponseSend scBuf responseBuffer responseCapacity requestLen

end Ism
