import Lirvena.Highway.Frame

/-!
# Uploading an object

An object is split into blocks, and each block is posted to the endpoints of the
session in turn until one of them gives an answer that decides it.  The answers
of the network are an input: what comes back when a block is posted to the
endpoint of an index.
-/

namespace Lirvena
namespace Highway

open Lib

def minChunkBytes : Nat := 64 * 1024

def maxChunkBytes : Nat := 4 * 1024 * 1024

def maxResponseBytes : Nat := 4 * 1024 * 1024 + 64 * 1024 + 10

/-- One bounded IPv4 upload endpoint. -/
structure HighwayEndpoint where
  serviceType : UInt32
  address : UInt32
  port : UInt16
  deriving DecidableEq

/-- An authenticated upload session. -/
structure HighwaySession where
  ticket : List UInt8
  endpoints : List HighwayEndpoint

/-- In-memory authenticated identity required for one upload. -/
structure UploadIdentity where
  uin : UInt64
  appId : UInt32
  subAppId : UInt32
  loginSignature : List UInt8

/-- Summary of a completely acknowledged object upload. -/
structure UploadReceipt where
  bytesUploaded : UInt64
  blocksUploaded : UInt32
  deriving DecidableEq

/-- An upload client with a bounded block size. -/
structure HighwayClient where
  chunkBytes : Nat
  min_le : minChunkBytes ≤ chunkBytes
  le_max : chunkBytes ≤ maxChunkBytes

/-- What comes back when a block is posted: nothing, or a status and a body that
could be read or not. -/
inductive PostOutcome where
  | failed
  | answered (success : Bool) (body : Option (List UInt8))
  deriving DecidableEq

/-- A request that was sent. -/
structure Post where
  endpoint : HighwayEndpoint
  uin : UInt64
  frame : List UInt8
  deriving DecidableEq

/-- What one outcome decides; an outcome that decides nothing lets the next
endpoint be tried. -/
def decides (codec : HighwayCodec) : PostOutcome → Option (Except HighwayError Unit)
  | .answered true (some body) =>
      if maxResponseBytes < body.length then none
      else
        match decodeUploadResponse codec body with
        | .ok _ => some (.ok ())
        | .error .remoteRejected => some (.error .remoteRejected)
        | .error _ => none
  | _ => none

/-- One block, posted to the endpoints from an index on. -/
def sendBlock (codec : HighwayCodec) (outcome : Nat → PostOutcome) (uin : UInt64)
    (frame : List UInt8) : Nat → List HighwayEndpoint → List Post × Except HighwayError Unit
  | _, [] => ([], .error .transport)
  | index, endpoint :: rest =>
      match decides codec (outcome index) with
      | some result => ([⟨endpoint, uin, frame⟩], result)
      | none =>
          let others := sendBlock codec outcome uin frame (index + 1) rest
          (⟨endpoint, uin, frame⟩ :: others.1, others.2)

/-- The arguments of `upload`. -/
structure UploadArguments where
  client : HighwayClient
  session : HighwaySession
  identity : UploadIdentity
  commandId : UInt32
  extension : List UInt8
  bytes : List UInt8

/-- `bytes.chunks(size)`. -/
def chunks (size : Nat) (bytes : List UInt8) : List (List UInt8) :=
  if _hbytes : bytes = [] ∨ size = 0 then []
  else bytes.take size :: chunks size (bytes.drop size)
termination_by bytes.length
decreasing_by
  obtain ⟨hbytes, hsize⟩ := not_or.mp _hbytes
  have hlength := List.length_pos_iff.mpr hbytes
  rw [List.length_drop]
  omega

namespace UploadArguments

/-- The bodies of the blocks. -/
def bodies (arguments : UploadArguments) : List (List UInt8) :=
  chunks arguments.client.chunkBytes arguments.bytes

/-- The block of an index and a body. -/
def block (arguments : UploadArguments) (codec : HighwayCodec) (index : Nat)
    (body : List UInt8) : UploadBlock where
  uin := arguments.identity.uin
  sequence := UInt32.ofNat (index + 1)
  subAppId := arguments.identity.subAppId
  appId := arguments.identity.appId
  commandId := arguments.commandId
  fileSize := UInt64.ofNat arguments.bytes.length
  offset := UInt64.ofNat (index * arguments.client.chunkBytes)
  ticket := arguments.session.ticket
  fileMd5 := codec.md5 arguments.bytes
  extension := arguments.extension
  body := body
  loginSignature := arguments.identity.loginSignature

/-- The frame of the block of an index and a body. -/
def prepareBlock (arguments : UploadArguments) (codec : HighwayCodec) (index : Nat)
    (body : List UInt8) : Except HighwayError (List UInt8) := do
  rejectIf .invalidInput (u32Bound ≤ index + 1)
  let _ ← okOr .invalidInput (checkedMulU64 index arguments.client.chunkBytes)
  encodeUploadBlock codec (arguments.block codec index body)

/-- The inputs that are refused before anything is sent. -/
def validateInputs (arguments : UploadArguments) : Except HighwayError Unit := do
  rejectIf .invalidInput (arguments.bytes = [] ∨ arguments.session.endpoints = [])
  rejectIf .invalidInput (arguments.session.ticket = [])
  rejectIf .invalidInput (u64Bound ≤ arguments.bytes.length)

end UploadArguments

/-- The loop over the blocks, which counts those that were acknowledged. -/
def uploadFrom (codec : HighwayCodec) (outcome : Nat → Nat → PostOutcome)
    (arguments : UploadArguments) :
    Nat → Nat → List (List UInt8) → List Post × Except HighwayError Nat
  | _, blocksUploaded, [] => ([], .ok blocksUploaded)
  | index, blocksUploaded, body :: rest =>
      match arguments.prepareBlock codec index body with
      | .error error => ([], .error error)
      | .ok frame =>
          match sendBlock codec (outcome index) arguments.identity.uin frame 0
              arguments.session.endpoints with
          | (posts, .error error) => (posts, .error error)
          | (posts, .ok ()) =>
              if u32Bound ≤ blocksUploaded + 1 then (posts, .error .invalidInput)
              else
                let others :=
                  uploadFrom codec outcome arguments (index + 1) (blocksUploaded + 1) rest
                (posts ++ others.1, others.2)

/-- Uploads an in-memory object sequentially, retrying each block only across the
endpoints of the session. -/
def upload (codec : HighwayCodec) (outcome : Nat → Nat → PostOutcome)
    (arguments : UploadArguments) : List Post × Except HighwayError UploadReceipt :=
  match arguments.validateInputs with
  | .error error => ([], .error error)
  | .ok () =>
      let uploaded := uploadFrom codec outcome arguments 0 0 arguments.bodies
      (uploaded.1, (fun blocks =>
        ⟨UInt64.ofNat arguments.bytes.length, UInt32.ofNat blocks⟩) <$> uploaded.2)

end Highway
end Lirvena
