import Lirvena.Highway.Upload
import Lirvena.Lib.Proto3
import Lirvena.Lib.Text
import Lirvena.Media.Resolver

/-!
# Upload plans

A metadata response says of each file whether it has to be uploaded, and what is sent
along with its blocks: an extension with the message bodies of the response, the key
and the addresses of the upload, and digests of the file.  The response is bounded part
by part.
-/

namespace Lirvena
namespace Media

open Highway
open Lib

/-- The longest metadata response. -/
def maxPlanResponseBytes : Nat := 2 * 1024 * 1024

/-- The longest message info of a response. -/
def maxMessageInfoBytes : Nat := 1024 * 1024

/-- The longest compatibility message of a response. -/
def maxCompatibilityBytes : Nat := 512 * 1024

/-- The longest key of an upload. -/
def maxUploadKeyBytes : Nat := 4 * 1024

/-- The most bodies of a message info. -/
def maxMessageBodies : Nat := 16

/-- The most addresses of an upload. -/
def maxNetworkAddresses : Nat := 32

/-- The most files beside the main one. -/
def maxSubFiles : Nat := 8

/-- The block size that an extension announces. -/
def highwayBlockBytes : UInt32 := 1024 * 1024

/-- The same number, where blocks are counted. -/
def highwayBlockSize : Nat := 1024 * 1024

/-- The longest body of an OIDB frame. -/
def maxOidbBodyBytes : Nat := 2 * 1024 * 1024

/-- The longest error text of an OIDB frame. -/
def maxErrorMessageBytes : Nat := 4 * 1024

/-! ## Messages -/

/-- The frame that every answer of the service stands in. -/
structure OidbWire where
  errorCode : UInt32
  body : List UInt8
  errorMessage : String

/-- An address of the upload servers; the port is wider than ports are. -/
structure Ipv4Wire where
  externalAddress : UInt32
  externalPort : UInt32

/-- What is negotiated for a file beside the main one. -/
structure SubFileInfo where
  subFileType : UInt32
  uploadKey : String
  ipv4 : List Ipv4Wire

/-- What is negotiated for an upload; without a key the main file is there already. -/
structure UploadResponseWire where
  uploadKey : String
  ipv4 : List Ipv4Wire
  messageInfo : List UInt8
  compatibilityMessage : List UInt8
  subFiles : List SubFileInfo

/-- A response; of its head only the return code counts. -/
structure RichResponse where
  returnCode : Option UInt32
  upload : Option UploadResponseWire

/-- The file that a message body is about. -/
structure IndexNode where
  sha1 : Option String
  uuid : String

/-- The server of an address. -/
structure HighwayDomain where
  enabled : Bool
  address : String

/-- An address as an extension writes it. -/
structure HighwayAddress where
  domain : Option HighwayDomain
  port : UInt32

/-- What is sent along with the blocks of a file. -/
structure HighwayExtension where
  uuid : String
  uploadKey : String
  network : Option (List HighwayAddress)
  messageBodies : List (List UInt8)
  blockSize : UInt32
  hashes : Option (List (List UInt8))

/-- The protobuf library at the types of the messages, and the SHA-1 digest. -/
structure UploadCodec where
  decodeOidb : List UInt8 → Option OidbWire
  decodeRichResponse : List UInt8 → Option RichResponse
  /-- The bodies of a message info. -/
  decodeMessageInfo : List UInt8 → Option (List (List UInt8))
  /-- The index of a message body. -/
  decodeMessageBody : List UInt8 → Option (List UInt8)
  decodeIndexNode : List UInt8 → Option IndexNode
  decodeExtension : List UInt8 → Option HighwayExtension
  sha1 : List UInt8 → Ceylith.FixedBytes 20

section Fields

open Protobuf

/-- The fields of a domain, in the order of their numbers. -/
def domainFields (domain : HighwayDomain) : List Field :=
  boolField 1 domain.enabled ++ bytesField 2 (utf8Bytes domain.address)

/-- The fields of an address; an absent domain has no field. -/
def addressFields (address : HighwayAddress) : List Field :=
  (address.domain.map fun domain => messageField 1 (domainFields domain)).toList ++
    varintField 2 address.port.toNat

/-- A field for each element, also for an empty one. -/
def repeatedBytes (number : Nat) (values : List (List UInt8)) : List Field :=
  values.map fun value => ⟨number, .lengthDelimited value⟩

/-- The addresses, each in a field of its own. -/
def networkFields (addresses : List HighwayAddress) : List Field :=
  addresses.map fun address => messageField 1 (addressFields address)

/-- The fields of an extension; absent parts have no field. -/
def extensionFields (extension : HighwayExtension) : List Field :=
  bytesField 1 (utf8Bytes extension.uuid) ++ bytesField 2 (utf8Bytes extension.uploadKey) ++
    (extension.network.map fun addresses => messageField 5 (networkFields addresses)).toList ++
      repeatedBytes 6 extension.messageBodies ++ varintField 10 extension.blockSize.toNat ++
        (extension.hashes.map fun hashes => messageField 11 (repeatedBytes 1 hashes)).toList

/-- The bytes of an extension. -/
def encodeExtension (extension : HighwayExtension) : List UInt8 :=
  encodeMessage (extensionFields extension)

end Fields

/-! ## Building an extension -/

/-- The value of a hexadecimal digit, in lower or upper case. -/
def hexNibble (value : UInt8) : Option UInt8 :=
  if 0x30 ≤ value ∧ value ≤ 0x39 then some (value - 0x30)
  else if 0x61 ≤ value ∧ value ≤ 0x66 then some (value - 0x61 + 10)
  else if 0x41 ≤ value ∧ value ≤ 0x46 then some (value - 0x41 + 10)
  else none

/-- The bytes of pairs of digits. -/
def decodeHexPairs : List UInt8 → Option (List UInt8)
  | high :: low :: rest => do
      let high ← hexNibble high
      let low ← hexNibble low
      let others ← decodeHexPairs rest
      return ((high <<< 4) ||| low) :: others
  | _ => some []

/-- A digest of the given width in hexadecimal. -/
def decodeHex (count : Nat) (input : String) : Except MediaError (Ceylith.FixedBytes count) := do
  rejectIf .remoteRejected (input.utf8ByteSize ≠ count * 2)
  let bytes ← okOr .remoteRejected (decodeHexPairs (utf8Bytes input))
  okOr .remoteRejected (Ceylith.FixedBytes.ofBytes count bytes)

/-- The dotted text of an address whose bytes are in little-endian order. -/
def ipv4Text (address : UInt32) : String :=
  let octet := fun index => toString (address.toNat / 256 ^ index % 256)
  octet 0 ++ "." ++ octet 1 ++ "." ++ octet 2 ++ "." ++ octet 3

/-- An address with a port, if it is one. -/
def highwayAddress (value : Ipv4Wire) : Option HighwayAddress := do
  let port ← tryU16 value.externalPort.toNat
  if port = 0 then none
  else return ⟨some ⟨true, ipv4Text value.externalAddress⟩, port.toUInt32⟩

/-- The bounds that the main file and the files beside it share. -/
def validateKeyAndAddresses (uploadKey : String) (ipv4 : List Ipv4Wire) : Except MediaError Unit :=
  rejectIf .remoteRejected (maxUploadKeyBytes < uploadKey.utf8ByteSize ∨
    maxNetworkAddresses < ipv4.length ∨ hasControl uploadKey)

/-- The bounds of a response; its message info is not empty. -/
def validateResponse (upload : UploadResponseWire) : Except MediaError Unit := do
  rejectIf .remoteRejected (upload.messageInfo = [] ∨
    maxMessageInfoBytes < upload.messageInfo.length ∨
      maxCompatibilityBytes < upload.compatibilityMessage.length)
  validateKeyAndAddresses upload.uploadKey upload.ipv4

section Codec

variable (codec : UploadCodec)

/-- The message that an extension encodes. -/
def highwayExtension (messageInfo : List UInt8) (uploadKey : String) (ipv4 : List Ipv4Wire)
    (bodyIndex : Nat) : Except MediaError HighwayExtension := do
  let bodies ← okOr .remoteRejected (codec.decodeMessageInfo messageInfo)
  rejectIf .remoteRejected (bodies = [] ∨ maxMessageBodies < bodies.length)
  let selected ← okOr .remoteRejected bodies[bodyIndex]?
  let body ← okOr .remoteRejected (codec.decodeMessageBody selected)
  let index ← okOr .remoteRejected (codec.decodeIndexNode body)
  let info ← okOr .remoteRejected index.sha1
  let sha1 ← decodeHex 20 info
  rejectIf .remoteRejected (index.uuid = "" ∨ 512 < index.uuid.utf8ByteSize ∨
    hasControl index.uuid)
  return {
    uuid := index.uuid
    uploadKey := uploadKey
    network := some (ipv4.filterMap highwayAddress)
    messageBodies := bodies
    blockSize := highwayBlockBytes
    hashes := some [sha1.bytes] }

/-- The bytes of the extension for a body of the message info. -/
def buildHighwayExtension (messageInfo : List UInt8) (uploadKey : String) (ipv4 : List Ipv4Wire)
    (bodyIndex : Nat) : Except MediaError (List UInt8) :=
  encodeExtension <$> highwayExtension codec messageInfo uploadKey ipv4 bodyIndex

/-! ## Plans -/

/-- One required upload of a negotiated file. -/
structure RichMediaUpload where
  fileIndex : Nat
  commandId : UInt32
  extension : List UInt8
  cumulativeHashes : Bool

/-- The message to send once its uploads are done. -/
structure RichMediaUploadPlan where
  messageInfo : List UInt8
  compatibilityMessage : List UInt8
  uploads : List RichMediaUpload

/-- What a sub file of a request is called, and how it is uploaded. -/
structure SubFile where
  subFileType : UInt32
  commandId : UInt32
  cumulativeHashes : Bool

/-- Opens an OIDB frame within its bounds; the error code is left to the caller. -/
def decodeOidbResponse (input : List UInt8) : Except MediaError OidbWire := do
  rejectIf .remoteRejected (maxOidbBodyBytes + maxErrorMessageBytes + 256 < input.length)
  let frame ← okOr .remoteRejected (codec.decodeOidb input)
  rejectIf .remoteRejected (maxOidbBodyBytes < frame.body.length ∨
    maxErrorMessageBytes < frame.errorMessage.utf8ByteSize ∨ hasControl frame.errorMessage)
  return frame

/-- The upload of a file with a key; a file without one needs none. -/
def requiredUpload (messageInfo : List UInt8) (uploadKey : String) (ipv4 : List Ipv4Wire)
    (fileIndex : Nat) (commandId : UInt32) (cumulativeHashes : Bool) :
    Except MediaError (List RichMediaUpload) :=
  if uploadKey = "" then .ok []
  else do
    let extension ← buildHighwayExtension codec messageInfo uploadKey ipv4 fileIndex
    return [⟨fileIndex, commandId, extension, cumulativeHashes⟩]

/-- The uploads of the sub files from a position on. -/
def subUploads (upload : UploadResponseWire) :
    Nat → List SubFile → Except MediaError (List RichMediaUpload)
  | _, [] => return []
  | position, subFile :: rest => do
      let candidates := upload.subFiles.filter fun candidate =>
        candidate.subFileType = subFile.subFileType
      let negotiated ← okOr .remoteRejected candidates.head?
      rejectIf .remoteRejected (candidates.length ≠ 1)
      validateKeyAndAddresses negotiated.uploadKey negotiated.ipv4
      let first ← requiredUpload codec upload.messageInfo negotiated.uploadKey negotiated.ipv4
        (position + 1) subFile.commandId subFile.cumulativeHashes
      let others ← subUploads upload (position + 1) rest
      return first ++ others

/-- Reads a response for a main file and as many files beside it as were asked for. -/
def parseWithSubFiles (input : List UInt8) (main : UInt32 × Bool) (subFiles : List SubFile) :
    Except MediaError RichMediaUploadPlan := do
  rejectIf .remoteRejected (maxPlanResponseBytes < input.length)
  let outer ← decodeOidbResponse codec input
  rejectIf .remoteRejected (outer.errorCode ≠ 0)
  let response ← okOr .remoteRejected (codec.decodeRichResponse outer.body)
  rejectIf .remoteRejected (∃ code ∈ response.returnCode, code ≠ 0)
  let upload ← okOr .remoteRejected response.upload
  validateResponse upload
  rejectIf .remoteRejected (maxSubFiles < upload.subFiles.length ∨
    upload.subFiles.length ≠ subFiles.length)
  let first ← requiredUpload codec upload.messageInfo upload.uploadKey upload.ipv4 0 main.1 main.2
  let others ← subUploads codec upload 0 subFiles
  return ⟨upload.messageInfo, upload.compatibilityMessage, first ++ others⟩

/-! ## Digests -/

/-- The digest of all that is hashed, after each chunk. -/
def hashChunks (hashed : List UInt8) : List (List UInt8) → List (List UInt8)
  | [] => []
  | chunk :: rest => (codec.sha1 (hashed ++ chunk)).bytes :: hashChunks (hashed ++ chunk) rest

/-- The digest of the file up to the end of each block, the last one twice where that block is
full. -/
def cumulativeSha1 (bytes : List UInt8) : List (List UInt8) :=
  hashChunks codec [] (chunks highwayBlockSize bytes) ++
    if bytes ≠ [] ∧ bytes.length % highwayBlockSize = 0 then [(codec.sha1 bytes).bytes] else []

/-- The extension for the bytes of the file. -/
def RichMediaUpload.extensionFor (upload : RichMediaUpload) (bytes : List UInt8) :
    Except MediaError (List UInt8) :=
  if upload.cumulativeHashes then do
    let extension ← okOr .remoteRejected (codec.decodeExtension upload.extension)
    return encodeExtension { extension with hashes := some (cumulativeSha1 codec bytes) }
  else .ok upload.extension

end Codec

end Media
end Lirvena
