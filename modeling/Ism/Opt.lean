import Ism.Serializer

namespace Ism

/-- The flags of an OPT record: the DNSSEC OK bit and fifteen reserved bits. -/
structure OptFlags where
  doBit : Bool
  z : { n : UInt16 // n.toNat < 32768 }

structure OptRecord where
  udpPayloadSize : UInt16
  extRcode : UInt8
  version : { v : UInt8 // v.toNat = 0 }
  flags : OptFlags
  options : List EdnsOption

def paddingOptionCode : UInt16 := 12

def repeatByte : Nat → UInt8 → List UInt8
  | 0, _ => []
  | n + 1, b => b :: repeatByte n b

/-- Code, length and data. -/
def serializeEdnsOptionBytes (opt : EdnsOption) : List UInt8 :=
  [u16Hi opt.code, u16Lo opt.code, u16Hi opt.len, u16Lo opt.len] ++ opt.data.val

def serializeEdnsOptionsBytes : List EdnsOption → List UInt8
  | [] => []
  | opt :: rest => serializeEdnsOptionBytes opt ++ serializeEdnsOptionsBytes rest

/-- The padding option: zeros, as many as its length says. -/
def serializePaddingOptionBytes (paddingLen : UInt16) : List UInt8 :=
  [u16Hi paddingOptionCode, u16Lo paddingOptionCode, u16Hi paddingLen, u16Lo paddingLen] ++
    repeatByte paddingLen.toNat 0

def optFlagsToU16 (flags : OptFlags) : UInt16 :=
  if flags.doBit then UInt16.ofNat (32768 + flags.z.val.toNat) else flags.z.val

def serializeOptRrBytesWithPayload (udpPayloadSize : UInt16) (extRcode version : UInt8) (flags : OptFlags)
    (optionPayload : List UInt8) : Option (List UInt8) :=
  let rdlen := optionPayload.length
  if 65535 < rdlen then none
  else
    let rdlenU16 := UInt16.ofNat rdlen
    let flagBits := optFlagsToU16 flags
    some ([0, 0x00, 0x29, u16Hi udpPayloadSize, u16Lo udpPayloadSize, extRcode, version, u16Hi flagBits, u16Lo flagBits,
      u16Hi rdlenU16, u16Lo rdlenU16] ++ optionPayload)

def serializeOptRrBytes (opt : OptRecord) : Option (List UInt8) :=
  serializeOptRrBytesWithPayload opt.udpPayloadSize opt.extRcode opt.version.val opt.flags
    (serializeEdnsOptionsBytes opt.options)

/-- A header followed by an OPT record. Nothing parses the bytes back here. -/
def serializeResponseWithOptPayload (h : Header) (udpPayloadSize : UInt16) (extRcode version : UInt8) (flags : OptFlags)
    (optionPayload : List UInt8) : Option (List UInt8) :=
  match serializeOptRrBytesWithPayload udpPayloadSize extRcode version flags optionPayload with
  | some optRr => some (serializeHeaderBytes h ++ optRr)
  | none => none

/-- How many octets there are from `currentLen` to the next multiple of the block. -/
def calculatePaddingLen (currentLen blockSize : UInt32) : UInt32 :=
  if blockSize.toNat = 0 then 0
  else
    let remainder := currentLen.toNat % blockSize.toNat
    if remainder = 0 then 0 else UInt32.ofNat (blockSize.toNat - remainder)

/-- The padding option that fills a message of `currentLen` octets up to a multiple of the
block; its own header is part of what is padded. -/
def serializePaddingOptionForBlock (currentLen blockSize : UInt32) : Option (List UInt8) :=
  if blockSize.toNat = 0 then some []
  else if 4294967291 < currentLen.toNat then none
  else
    let paddedBase := UInt32.ofNat (currentLen.toNat + 4)
    let paddingLen := calculatePaddingLen paddedBase blockSize
    if 65535 < paddingLen.toNat then none
    else some (serializePaddingOptionBytes (UInt16.ofNat paddingLen.toNat))

end Ism
