import Lirvena.Highway.HeadSize
import Lirvena.Highway.Partition
import Lirvena.Media.UploadPlan
import Mathlib.Algebra.Order.BigOperators.Group.List

/-!
# The size of an upload frame

The limits on a response bound every part of an extension but the message bodies, which
are copied into it whole.  A frame is built exactly when its extension and its head are
within the limits of the frame, and both are when the message bodies of the response
have at most 36 KiB together.
-/

namespace Lirvena
namespace Media

open Highway
open Lib
open Lib.Protobuf

/-! ## Parts of messages -/

theorem messageLen_map_le {α : Type} {field : α → Field} {bound : Nat} {items : List α}
    (hitems : ∀ item ∈ items, messageLen [field item] ≤ bound) :
    messageLen (items.map field) ≤ bound * items.length := by
  induction items with
  | nil => exact Nat.zero_le _
  | cons item rest ih =>
      obtain ⟨hitem, hrest⟩ := List.forall_mem_cons.mp hitems
      have hothers := ih hrest
      rw [← List.singleton_append, List.map_append, messageLen_append, List.length_append,
        Nat.mul_add]
      exact Nat.add_le_add (by simpa using hitem) hothers

/-- Each value is written behind its key and its length. -/
theorem messageLen_repeatedBytes_le {number count : Nat} {values : List (List UInt8)}
    (hnumber : number < 16) (hvalues : ∀ value ∈ values, value.length < 128 ^ (count + 1)) :
    messageLen (repeatedBytes number values) ≤
      (count + 2) * values.length + (values.map List.length).sum := by
  induction values with
  | nil => exact Nat.zero_le _
  | cons value rest ih =>
      obtain ⟨hvalue, hrest⟩ := List.forall_mem_cons.mp hvalues
      have hfirst : messageLen [⟨number, .lengthDelimited value⟩] ≤ count + 2 + value.length :=
        messageLen_lengthDelimited_le hnumber (Nat.le_refl _) hvalue
      have hothers := ih hrest
      have hsplit : repeatedBytes number (value :: rest) =
          [⟨number, .lengthDelimited value⟩] ++ repeatedBytes number rest := rfl
      rw [hsplit, messageLen_append, List.map_cons, List.sum_cons, List.length_cons, Nat.mul_succ]
      omega

theorem ipv4Text_utf8ByteSize_le (address : UInt32) : (ipv4Text address).utf8ByteSize ≤ 15 := by
  have hoctet : ∀ index, (toString (address.toNat / 256 ^ index % 256)).utf8ByteSize ≤ 3 :=
    fun index => toString_utf8ByteSize_le (by decide) (by omega)
  have hdot : (".".utf8ByteSize) = 1 := by decide
  have hfirst := hoctet 0
  have hsecond := hoctet 1
  have hthird := hoctet 2
  have hfourth := hoctet 3
  unfold ipv4Text
  simp only [String.utf8ByteSize_append, hdot]
  omega

theorem messageLen_address_le {value : Ipv4Wire} {address : HighwayAddress}
    (haddress : highwayAddress value = some address) :
    messageLen [messageField 1 (addressFields address)] ≤ 27 := by
  obtain ⟨port, -, hport⟩ := Option.bind_eq_some_iff.mp haddress
  split at hport
  · cases hport
  · cases hport
    have htext : (utf8Bytes (ipv4Text value.externalAddress)).length ≤ 15 := by
      rw [utf8Bytes_length]
      exact ipv4Text_utf8ByteSize_le _
    have henabled : messageLen (boolField 1 true) ≤ 2 :=
      messageLen_varintField_le (by decide) (by decide)
    have hbytes : messageLen (bytesField 2 (utf8Bytes (ipv4Text value.externalAddress))) ≤ 17 :=
      messageLen_bytesField_le (by decide) htext (by decide)
    have hdomain : messageLen (boolField 1 true ++
        bytesField 2 (utf8Bytes (ipv4Text value.externalAddress))) ≤ 19 := by
      rw [messageLen_append]
      omega
    have hnested : messageLen [messageField 1
        (domainFields ⟨true, ipv4Text value.externalAddress⟩)] ≤ 21 :=
      messageLen_messageField_le (by decide) hdomain (by decide)
    have hport : port.toUInt32.toNat < 128 ^ 3 := by
      have hbound := port.toNat_lt
      rw [UInt16.toNat_toUInt32]
      omega
    have hword : messageLen (varintField 2 port.toUInt32.toNat) ≤ 4 :=
      messageLen_varintField_le (by decide) hport
    have hboth : messageLen ([messageField 1
        (domainFields ⟨true, ipv4Text value.externalAddress⟩)] ++
          varintField 2 port.toUInt32.toNat) ≤ 25 := by
      rw [messageLen_append]
      omega
    exact messageLen_messageField_le (by decide) hboth (by decide)

theorem messageLen_network_le (ipv4 : List Ipv4Wire) (hcount : ipv4.length ≤ maxNetworkAddresses) :
    messageLen (networkFields (ipv4.filterMap highwayAddress)) ≤ 864 := by
  have hall : ∀ address ∈ ipv4.filterMap highwayAddress,
      messageLen [messageField 1 (addressFields address)] ≤ 27 := by
    intro address haddress
    obtain ⟨value, -, hvalue⟩ := List.mem_filterMap.mp haddress
    exact messageLen_address_le hvalue
  have hlength : (ipv4.filterMap highwayAddress).length ≤ ipv4.length :=
    List.length_filterMap_le _ _
  have hsum := messageLen_map_le hall
  unfold maxNetworkAddresses at hcount
  unfold networkFields
  omega

/-! ## Digests -/

theorem chunks_length_le {size : Nat} (hsize : 0 < size) {count : Nat} {bytes : List UInt8}
    (hbytes : bytes.length ≤ count * size) : (chunks size bytes).length ≤ count := by
  induction count generalizing bytes with
  | zero =>
      obtain rfl := List.eq_nil_of_length_eq_zero (by omega : bytes.length = 0)
      rw [chunks_nil]
      exact Nat.le_refl 0
  | succ count ih =>
      by_cases hempty : bytes = []
      · rw [hempty, chunks_nil]
        exact Nat.zero_le _
      · rw [chunks_cons hempty hsize, List.length_cons]
        refine Nat.succ_le_succ (ih ?_)
        rw [List.length_drop]
        rw [Nat.succ_mul] at hbytes
        omega

theorem hashChunks_length (codec : UploadCodec) (hashed : List UInt8) (parts : List (List UInt8)) :
    (hashChunks codec hashed parts).length = parts.length ∧
      ∀ digest ∈ hashChunks codec hashed parts, digest.length = 20 := by
  induction parts generalizing hashed with
  | nil => exact ⟨rfl, nofun⟩
  | cons part rest ih =>
      obtain ⟨hlength, hdigests⟩ := ih (hashed ++ part)
      refine ⟨congrArg Nat.succ hlength, List.forall_mem_cons.mpr ⟨?_, hdigests⟩⟩
      exact (codec.sha1 (hashed ++ part)).length_eq

def maxMediaBytes : Nat := 256 * 1024 * 1024

/-- One digest for each block, and one more behind a last block that is full. -/
theorem cumulativeSha1_length (codec : UploadCodec) {bytes : List UInt8}
    (hbytes : bytes.length ≤ maxMediaBytes) :
    (cumulativeSha1 codec bytes).length ≤ 257 ∧
      ∀ digest ∈ cumulativeSha1 codec bytes, digest.length = 20 := by
  obtain ⟨hlength, hdigests⟩ := hashChunks_length codec [] (chunks highwayBlockSize bytes)
  have hchunks : (chunks highwayBlockSize bytes).length ≤ 256 :=
    chunks_length_le (by decide) hbytes
  unfold cumulativeSha1
  rw [List.length_append, hlength]
  split
  · refine ⟨by simp only [List.length_singleton]; omega, List.forall_mem_append.mpr ⟨hdigests, ?_⟩⟩
    intro digest hdigest
    rw [List.mem_singleton.mp hdigest]
    exact (codec.sha1 bytes).length_eq
  · rw [List.append_nil]
    exact ⟨by simp only [List.length_nil]; omega, hdigests⟩

theorem messageLen_digests_le {digests : List (List UInt8)} {count : Nat}
    (hcount : digests.length ≤ count) (hdigests : ∀ digest ∈ digests, digest.length = 20) :
    messageLen (repeatedBytes 1 digests) ≤ 22 * count := by
  have hsum : (digests.map List.length).sum = 20 * digests.length := by
    rw [List.map_congr_left hdigests, List.map_const', List.sum_replicate_nat, Nat.mul_comm]
  have hlength : messageLen (repeatedBytes 1 digests) ≤ _ :=
    messageLen_repeatedBytes_le (by decide) fun digest hdigest => by
      rw [hdigests digest hdigest]
      exact (by decide : 20 < 128 ^ (0 + 1))
  omega

/-! ## Extensions -/

/-- An extension without the message bodies takes 5509 bytes at most. -/
theorem highwayExtension_length_le {codec : UploadCodec} {messageInfo : List UInt8}
    {uploadKey : String} {ipv4 : List Ipv4Wire} {bodyIndex : Nat} {extension : HighwayExtension}
    (hkey : uploadKey.utf8ByteSize ≤ maxUploadKeyBytes) (hipv4 : ipv4.length ≤ maxNetworkAddresses)
    (hextension : highwayExtension codec messageInfo uploadKey ipv4 bodyIndex = .ok extension) :
    codec.decodeMessageInfo messageInfo = some extension.messageBodies ∧
      extension.messageBodies.length ≤ maxMessageBodies ∧
        (encodeExtension extension).length ≤
          5509 + messageLen (repeatedBytes 6 extension.messageBodies) := by
  obtain ⟨bodies, hbodies, hextension⟩ := bind_eq_ok_iff.mp hextension
  obtain ⟨⟨⟩, hcount, hextension⟩ := bind_eq_ok_iff.mp hextension
  obtain ⟨selected, -, hextension⟩ := bind_eq_ok_iff.mp hextension
  obtain ⟨body, -, hextension⟩ := bind_eq_ok_iff.mp hextension
  obtain ⟨index, -, hextension⟩ := bind_eq_ok_iff.mp hextension
  obtain ⟨info, -, hextension⟩ := bind_eq_ok_iff.mp hextension
  obtain ⟨sha1, -, hextension⟩ := bind_eq_ok_iff.mp hextension
  obtain ⟨⟨⟩, huuid, hextension⟩ := bind_eq_ok_iff.mp hextension
  cases hextension
  have hmany := (not_or.mp (rejectIf_eq_ok_iff.mp hcount)).2
  have hlong := (not_or.mp (not_or.mp (rejectIf_eq_ok_iff.mp huuid)).2).1
  refine ⟨okOr_eq_ok_iff.mp hbodies, Nat.not_lt.mp hmany, ?_⟩
  rw [Nat.not_lt, ← utf8Bytes_length] at hlong
  rw [← utf8Bytes_length] at hkey
  have hname : messageLen (bytesField 1 (utf8Bytes index.uuid)) ≤ 515 :=
    messageLen_bytesField_le (by decide) hlong (by decide)
  have hupload : messageLen (bytesField 2 (utf8Bytes uploadKey)) ≤ 4099 :=
    messageLen_bytesField_le (by decide) hkey (by decide)
  have hnetwork : messageLen [messageField 5
      (networkFields (ipv4.filterMap highwayAddress))] ≤ 867 :=
    messageLen_messageField_le (by decide) (messageLen_network_le ipv4 hipv4) (by decide)
  have hblock : messageLen (varintField 10 highwayBlockBytes.toNat) ≤ 4 :=
    messageLen_varintField_le (by decide) (by decide)
  have hdigest : messageLen (repeatedBytes 1 [sha1.bytes]) ≤ 22 * 1 :=
    messageLen_digests_le (Nat.le_refl 1) (List.forall_mem_singleton.mpr sha1.length_eq)
  have hhashes : messageLen [messageField 11 (repeatedBytes 1 [sha1.bytes])] ≤ 24 :=
    messageLen_messageField_le (by decide) hdigest (by decide)
  show messageLen (bytesField 1 _ ++ bytesField 2 _ ++ [messageField 5 _] ++
    repeatedBytes 6 bodies ++ varintField 10 _ ++ [messageField 11 _]) ≤ _
  simp only [messageLen_append]
  omega

/-- The digests of an object take 5657 bytes at most. -/
theorem withHashes_length_le (extension : HighwayExtension) (digests : List (List UInt8))
    (hcount : digests.length ≤ 257) (hdigests : ∀ digest ∈ digests, digest.length = 20) :
    (encodeExtension { extension with hashes := some digests }).length ≤
      (encodeExtension extension).length + 5657 := by
  have hhashes : messageLen [messageField 11 (repeatedBytes 1 digests)] ≤ 5657 :=
    messageLen_messageField_le (by decide) (messageLen_digests_le hcount hdigests) (by decide)
  show messageLen (extensionFields _) ≤ messageLen (extensionFields _) + 5657
  simp only [extensionFields, messageLen_append, Option.map_some, Option.toList_some]
  omega

/-! ## Plans -/

/-- The extension of an upload is bounded by the message bodies of its response. -/
def BoundedByBodies (codec : UploadCodec) (messageInfo : List UInt8)
    (upload : RichMediaUpload) : Prop :=
  ∃ bodies, codec.decodeMessageInfo messageInfo = some bodies ∧
    bodies.length ≤ maxMessageBodies ∧
      upload.extension.length ≤ 5509 + messageLen (repeatedBytes 6 bodies)

section Plan

variable {codec : UploadCodec}

theorem requiredUpload_bounded {messageInfo : List UInt8} {uploadKey : String}
    {ipv4 : List Ipv4Wire} {fileIndex : Nat} {commandId : UInt32} {cumulativeHashes : Bool}
    {uploads : List RichMediaUpload} (hvalid : validateKeyAndAddresses uploadKey ipv4 = .ok ())
    (huploads : requiredUpload codec messageInfo uploadKey ipv4 fileIndex commandId
      cumulativeHashes = .ok uploads) :
    ∀ upload ∈ uploads, BoundedByBodies codec messageInfo upload := by
  unfold requiredUpload at huploads
  split at huploads
  · cases huploads
    exact nofun
  · obtain ⟨encoded, hencoded, huploads⟩ := bind_eq_ok_iff.mp huploads
    cases huploads
    obtain ⟨extension, hextension, rfl⟩ := map_eq_ok_iff.mp hencoded
    obtain ⟨hkey, hipv4⟩ := not_or.mp (rejectIf_eq_ok_iff.mp hvalid)
    obtain ⟨hbodies, hcount, hlength⟩ := highwayExtension_length_le (Nat.not_lt.mp hkey)
      (Nat.not_lt.mp (not_or.mp hipv4).1) hextension
    exact List.forall_mem_singleton.mpr ⟨extension.messageBodies, hbodies, hcount, hlength⟩

theorem subUploads_bounded {response : UploadResponseWire} {position : Nat}
    {subFiles : List SubFile} {uploads : List RichMediaUpload}
    (huploads : subUploads codec response position subFiles = .ok uploads) :
    ∀ upload ∈ uploads, BoundedByBodies codec response.messageInfo upload := by
  induction subFiles generalizing position uploads with
  | nil =>
      cases huploads
      exact nofun
  | cons subFile rest ih =>
      obtain ⟨negotiated, -, huploads⟩ := bind_eq_ok_iff.mp huploads
      obtain ⟨⟨⟩, -, huploads⟩ := bind_eq_ok_iff.mp huploads
      obtain ⟨⟨⟩, hvalid, huploads⟩ := bind_eq_ok_iff.mp huploads
      obtain ⟨first, hfirst, huploads⟩ := bind_eq_ok_iff.mp huploads
      obtain ⟨others, hothers, huploads⟩ := bind_eq_ok_iff.mp huploads
      cases huploads
      exact List.forall_mem_append.mpr ⟨requiredUpload_bounded hvalid hfirst, ih hothers⟩

/-- The limits on a response bound the extension of each of its uploads. -/
theorem parseWithSubFiles_bounded {input : List UInt8} {main : UInt32 × Bool}
    {subFiles : List SubFile} {plan : RichMediaUploadPlan}
    (hplan : parseWithSubFiles codec input main subFiles = .ok plan) :
    ∀ upload ∈ plan.uploads, BoundedByBodies codec plan.messageInfo upload := by
  obtain ⟨⟨⟩, -, hplan⟩ := bind_eq_ok_iff.mp hplan
  obtain ⟨outer, -, hplan⟩ := bind_eq_ok_iff.mp hplan
  obtain ⟨⟨⟩, -, hplan⟩ := bind_eq_ok_iff.mp hplan
  obtain ⟨response, -, hplan⟩ := bind_eq_ok_iff.mp hplan
  obtain ⟨⟨⟩, -, hplan⟩ := bind_eq_ok_iff.mp hplan
  obtain ⟨upload, -, hplan⟩ := bind_eq_ok_iff.mp hplan
  obtain ⟨⟨⟩, hvalid, hplan⟩ := bind_eq_ok_iff.mp hplan
  obtain ⟨⟨⟩, -, hplan⟩ := bind_eq_ok_iff.mp hplan
  obtain ⟨first, hfirst, hplan⟩ := bind_eq_ok_iff.mp hplan
  obtain ⟨others, hothers, hplan⟩ := bind_eq_ok_iff.mp hplan
  obtain ⟨⟨⟩, -, hkey⟩ := bind_eq_ok_iff.mp hvalid
  cases hplan
  exact List.forall_mem_append.mpr
    ⟨requiredUpload_bounded hkey hfirst, subUploads_bounded hothers⟩

/-- The extension of an upload for the bytes of its object. -/
theorem extensionFor_eq_ok {upload : RichMediaUpload}
    (hprost : ∃ message, encodeExtension message = upload.extension ∧
      codec.decodeExtension upload.extension = some message)
    {bytes : List UInt8} (hbytes : bytes.length ≤ maxMediaBytes) :
    ∃ extension, upload.extensionFor codec bytes = .ok extension ∧
      extension.length ≤ upload.extension.length + 5657 := by
  unfold RichMediaUpload.extensionFor
  split
  · obtain ⟨message, hmessage, hdecode⟩ := hprost
    obtain ⟨hcount, hdigests⟩ := cumulativeSha1_length codec hbytes
    refine ⟨_, bind_eq_ok_iff.mpr ⟨message, okOr_eq_ok_iff.mpr hdecode, rfl⟩, ?_⟩
    rw [← hmessage]
    exact withHashes_length_le message _ hcount hdigests
  · exact ⟨upload.extension, rfl, Nat.le_add_right _ _⟩

/-- What the message bodies of a response may take together so that every frame of its
uploads is built. -/
def bodiesBudget : Nat := 36 * 1024

theorem messageLen_bodies_le {bodies : List (List UInt8)}
    (hcount : bodies.length ≤ maxMessageBodies)
    (hbodies : (bodies.map List.length).sum ≤ bodiesBudget) :
    messageLen (repeatedBytes 6 bodies) ≤ 36928 := by
  have hshort : ∀ body ∈ bodies, body.length < 128 ^ (2 + 1) := by
    intro body hbody
    have hsum : body.length ≤ (bodies.map List.length).sum :=
      List.le_sum_of_mem (List.mem_map_of_mem hbody)
    exact Nat.lt_of_le_of_lt (Nat.le_trans hsum hbodies) (by decide)
  have hlength := messageLen_repeatedBytes_le (by decide : 6 < 16) hshort
  unfold maxMessageBodies at hcount
  unfold bodiesBudget at hbodies
  omega

/-- For every upload of an accepted response, a frame is built exactly when its extension
and its head are within their limits, and they are when the message bodies of the
response are within the budget. -/
theorem required_upload_framed (codec : UploadCodec) (highway : HighwayCodec)
    (hencode : ∀ head, highway.encodeRequest head = encodeRequestHead head)
    (input : List UInt8) (main : UInt32 × Bool) (subFiles : List SubFile)
    (plan : RichMediaUploadPlan)
    (hplan : parseWithSubFiles codec input main subFiles = .ok plan)
    (upload : RichMediaUpload) (hupload : upload ∈ plan.uploads)
    (hprost : ∃ message, encodeExtension message = upload.extension ∧
      codec.decodeExtension upload.extension = some message)
    (bytes : List UInt8) (hbytes : bytes.length ≤ maxMediaBytes) :
    ∃ extension, upload.extensionFor codec bytes = .ok extension ∧
      ∀ block : UploadBlock, block.Within bytes → block.extension = extension →
        (Returns (encodeUploadBlock highway block) ↔
          extension.length ≤ maxExtensionBytes ∧
            (block.head highway).length ≤ maxHeadBytes) ∧
        ∀ bodies, codec.decodeMessageInfo plan.messageInfo = some bodies →
          (bodies.map List.length).sum ≤ bodiesBudget →
            Returns (encodeUploadBlock highway block) := by
  obtain ⟨extension, hextension, hlength⟩ := extensionFor_eq_ok hprost hbytes
  refine ⟨extension, hextension, fun block hblock hown => ?_⟩
  subst hown
  refine ⟨encodeUploadBlock_returns_iff hblock, fun bodies hbodies hbudget => ?_⟩
  obtain ⟨decoded, hdecoded, hcount, hbound⟩ := parseWithSubFiles_bounded hplan upload hupload
  obtain rfl := Option.some.inj (hdecoded.symm.trans hbodies)
  have hcopied := messageLen_bodies_le hcount hbudget
  have hall : block.extension.length ≤ 48094 := by omega
  have hhead := head_length_le highway hencode hblock hall (by decide)
  refine (encodeUploadBlock_returns_iff hblock).mpr ⟨?_, ?_⟩
  · exact Nat.le_trans hall (by decide)
  · exact Nat.le_trans hhead (by decide)

end Plan

/-! ## A response -/

theorem sum_le_messageLen_repeatedBytes (number : Nat) (values : List (List UInt8)) :
    (values.map List.length).sum ≤ messageLen (repeatedBytes number values) := by
  induction values with
  | nil => exact Nat.zero_le _
  | cons value rest ih =>
      have hfirst : value.length ≤ messageLen [⟨number, .lengthDelimited value⟩] := by
        rw [messageLen_cons, messageLen_nil, Field.encode]
        simp only [WireValue.encode, List.length_append]
        omega
      have hsplit : repeatedBytes number (value :: rest) =
          [⟨number, .lengthDelimited value⟩] ++ repeatedBytes number rest := rfl
      rw [hsplit, messageLen_append, List.map_cons, List.sum_cons]
      omega

def sampleObject : List UInt8 := asciiBytes "abc"

def sampleSha1 : Ceylith.FixedBytes 20 :=
  ⟨[169, 153, 62, 54, 71, 6, 129, 106, 186, 62, 37, 113, 120, 80, 194, 108, 156, 208, 216, 157],
    rfl⟩

def sampleMd5 : Ceylith.FixedBytes 16 :=
  ⟨[144, 1, 80, 152, 60, 210, 79, 176, 214, 150, 63, 125, 40, 225, 127, 114], rfl⟩

/-- The index of a file with the digest of the object. -/
def sampleIndex : IndexNode :=
  ⟨some "a9993e364706816aba3e25717850c26c9cd0d89d", "file"⟩

def encodedIndex : List UInt8 :=
  encodeMessage ([messageField 1 (bytesField 3
    (utf8Bytes "a9993e364706816aba3e25717850c26c9cd0d89d"))] ++ bytesField 2 (utf8Bytes "file"))

def encodedBody : List UInt8 := encodeMessage (bytesField 1 encodedIndex)

theorem encodedBody_length : 0 < encodedBody.length ∧ encodedBody.length ≤ 100 := by
  decide +kernel

theorem encodedBody_short : ∀ body ∈ [encodedBody], body.length < 128 ^ (0 + 1) :=
  List.forall_mem_singleton.mpr (Nat.lt_of_le_of_lt encodedBody_length.2 (by decide))

section Response

variable (bodies : List (List UInt8))

def responseInfo : List UInt8 := encodeMessage (repeatedBytes 1 bodies)

def responseUpload : UploadResponseWire where
  uploadKey := "key"
  ipv4 := []
  messageInfo := responseInfo bodies
  compatibilityMessage := []
  subFiles := []

def responseBody : List UInt8 :=
  encodeMessage [messageField 2
    (bytesField 1 (utf8Bytes "key") ++ bytesField 6 (responseInfo bodies))]

def response : List UInt8 := encodeMessage (bytesField 4 (responseBody bodies))

def responseExtension : HighwayExtension where
  uuid := "file"
  uploadKey := "key"
  network := some []
  messageBodies := bodies
  blockSize := highwayBlockBytes
  hashes := some [sampleSha1.bytes]

/-- The library at the messages of the response. -/
def responseCodec : UploadCodec where
  decodeOidb input := if input = response bodies then some ⟨0, responseBody bodies, ""⟩ else none
  decodeRichResponse input :=
    if input = responseBody bodies then some ⟨none, some (responseUpload bodies)⟩ else none
  decodeMessageInfo input := if input = responseInfo bodies then some bodies else none
  decodeMessageBody input := if input = encodedBody then some encodedIndex else none
  decodeIndexNode input := if input = encodedIndex then some sampleIndex else none
  decodeExtension input :=
    if input = encodeExtension (responseExtension bodies) then some (responseExtension bodies)
    else none
  sha1 _ := sampleSha1

end Response

theorem decodeHex_sample :
    decodeHex 20 "a9993e364706816aba3e25717850c26c9cd0d89d" = .ok sampleSha1 := by
  have hpairs : decodeHexPairs (utf8Bytes "a9993e364706816aba3e25717850c26c9cd0d89d") =
      some sampleSha1.bytes := by
    decide
  refine bind_eq_ok_iff.mpr ⟨(), rejectIf_eq_ok_iff.mpr (by decide), ?_⟩
  exact bind_eq_ok_iff.mpr ⟨_, okOr_eq_ok_iff.mpr hpairs,
    okOr_eq_ok_iff.mpr (Ceylith.FixedBytes.ofBytes_eq_some_iff.mpr rfl)⟩

/-- The extension of the file of a response whose first body is of it. -/
theorem highwayExtension_response {rest : List (List UInt8)} (hrest : rest.length < 16) :
    highwayExtension (responseCodec (encodedBody :: rest)) (responseInfo (encodedBody :: rest))
      "key" [] 0 = .ok (responseExtension (encodedBody :: rest)) := by
  have hcount : ¬(encodedBody :: rest = [] ∨
      maxMessageBodies < (encodedBody :: rest).length) := by
    rw [List.length_cons, maxMessageBodies]
    rintro (hnil | hmany)
    · cases hnil
    · omega
  have hname : ¬(sampleIndex.uuid = "" ∨ 512 < sampleIndex.uuid.utf8ByteSize ∨
      hasControl sampleIndex.uuid) := by
    decide
  refine bind_eq_ok_iff.mpr ⟨_, okOr_eq_ok_iff.mpr (if_pos rfl), ?_⟩
  refine bind_eq_ok_iff.mpr ⟨(), rejectIf_eq_ok_iff.mpr hcount, ?_⟩
  refine bind_eq_ok_iff.mpr ⟨encodedBody, rfl, ?_⟩
  refine bind_eq_ok_iff.mpr ⟨encodedIndex, okOr_eq_ok_iff.mpr (if_pos rfl), ?_⟩
  refine bind_eq_ok_iff.mpr ⟨sampleIndex, okOr_eq_ok_iff.mpr (if_pos rfl), ?_⟩
  refine bind_eq_ok_iff.mpr ⟨_, rfl, bind_eq_ok_iff.mpr ⟨sampleSha1, decodeHex_sample, ?_⟩⟩
  exact bind_eq_ok_iff.mpr ⟨(), rejectIf_eq_ok_iff.mpr hname, rfl⟩

section Accepted

variable {rest : List (List UInt8)}

theorem responseLength_le {bodies : List (List UInt8)}
    (hinfo : (responseInfo bodies).length ≤ maxMessageInfoBytes) :
    (responseBody bodies).length ≤ maxMessageInfoBytes + 15 ∧
      (response bodies).length ≤ maxMessageInfoBytes + 20 := by
  have hkey : messageLen (bytesField 1 (utf8Bytes "key")) ≤ 5 :=
    messageLen_bytesField_le (by decide) (by decide : _ ≤ 3) (by decide)
  have hbytes : messageLen (bytesField 6 (responseInfo bodies)) ≤ 4 + maxMessageInfoBytes :=
    messageLen_bytesField_le (by decide) hinfo (by decide)
  have hupload : messageLen (bytesField 1 (utf8Bytes "key") ++
      bytesField 6 (responseInfo bodies)) ≤ 9 + maxMessageInfoBytes := by
    rw [messageLen_append]
    omega
  have hbody : (responseBody bodies).length ≤ 4 + (9 + maxMessageInfoBytes) :=
    messageLen_messageField_le (by decide) hupload (by decide)
  have houter : (response bodies).length ≤ 4 + (4 + (9 + maxMessageInfoBytes)) :=
    messageLen_bytesField_le (by decide) hbody (by decide)
  omega

theorem responseInfo_ne_nil : responseInfo (encodedBody :: rest) ≠ [] := by
  intro hnil
  have hsum := sum_le_messageLen_repeatedBytes 1 (encodedBody :: rest)
  have hbody := encodedBody_length.1
  have hlength : messageLen (repeatedBytes 1 (encodedBody :: rest)) = 0 :=
    congrArg List.length hnil
  rw [List.map_cons, List.sum_cons] at hsum
  omega

/-- A response is accepted whatever the bodies behind the first one are. -/
theorem parseWithSubFiles_response (rest : List (List UInt8)) (hrest : rest.length < 16)
    (hinfo : (responseInfo (encodedBody :: rest)).length ≤ maxMessageInfoBytes)
    (main : UInt32 × Bool) :
    parseWithSubFiles (responseCodec (encodedBody :: rest)) (response (encodedBody :: rest))
      main [] = .ok ⟨responseInfo (encodedBody :: rest), [],
        [⟨0, main.1, encodeExtension (responseExtension (encodedBody :: rest)), main.2⟩]⟩ := by
  obtain ⟨hbody, hinput⟩ := responseLength_le hinfo
  have hplan : ¬maxPlanResponseBytes < (response (encodedBody :: rest)).length :=
    Nat.not_lt.mpr (Nat.le_trans hinput (by decide))
  have houter : ¬maxOidbBodyBytes + maxErrorMessageBytes + 256 <
      (response (encodedBody :: rest)).length :=
    Nat.not_lt.mpr (Nat.le_trans hinput (by decide))
  have hframe : ¬(maxOidbBodyBytes < (responseBody (encodedBody :: rest)).length ∨
      maxErrorMessageBytes < "".utf8ByteSize ∨ hasControl "") := by
    rintro (hlong | hmessage)
    · exact absurd (Nat.le_trans hbody (by decide)) (Nat.not_le.mpr hlong)
    · exact absurd hmessage (by decide)
  have hvalid : validateResponse (responseUpload (encodedBody :: rest)) = .ok () := by
    refine bind_eq_ok_iff.mpr ⟨(), rejectIf_eq_ok_iff.mpr ?_, rejectIf_eq_ok_iff.mpr ?_⟩
    · rintro (hnil | hlong | hcompatibility)
      · exact responseInfo_ne_nil hnil
      · exact absurd hinfo (Nat.not_le.mpr hlong)
      · exact Nat.not_lt_zero _ hcompatibility
    · show ¬(maxUploadKeyBytes < "key".utf8ByteSize ∨ maxNetworkAddresses < 0 ∨ hasControl "key")
      decide
  have hfirst : requiredUpload (responseCodec (encodedBody :: rest))
      (responseInfo (encodedBody :: rest)) "key" [] 0 main.1 main.2 =
        .ok [⟨0, main.1, encodeExtension (responseExtension (encodedBody :: rest)), main.2⟩] :=
    bind_eq_ok_iff.mpr ⟨_, map_eq_ok_iff.mpr ⟨_, highwayExtension_response hrest, rfl⟩, rfl⟩
  refine bind_eq_ok_iff.mpr ⟨(), rejectIf_eq_ok_iff.mpr hplan, ?_⟩
  refine bind_eq_ok_iff.mpr ⟨⟨0, responseBody (encodedBody :: rest), ""⟩, ?_, ?_⟩
  · refine bind_eq_ok_iff.mpr ⟨(), rejectIf_eq_ok_iff.mpr houter, ?_⟩
    refine bind_eq_ok_iff.mpr ⟨_, okOr_eq_ok_iff.mpr (if_pos rfl), ?_⟩
    exact bind_eq_ok_iff.mpr ⟨(), rejectIf_eq_ok_iff.mpr hframe, rfl⟩
  · have hfiles : ¬(maxSubFiles < 0 ∨ 0 ≠ 0) := by decide
    refine bind_eq_ok_iff.mpr ⟨(), rejectIf_eq_ok_iff.mpr fun hcode => hcode rfl, ?_⟩
    refine bind_eq_ok_iff.mpr ⟨_, okOr_eq_ok_iff.mpr (if_pos rfl), ?_⟩
    refine bind_eq_ok_iff.mpr ⟨(), rejectIf_eq_ok_iff.mpr nofun, ?_⟩
    refine bind_eq_ok_iff.mpr ⟨_, rfl, bind_eq_ok_iff.mpr ⟨(), hvalid, ?_⟩⟩
    refine bind_eq_ok_iff.mpr ⟨(), rejectIf_eq_ok_iff.mpr hfiles, ?_⟩
    exact bind_eq_ok_iff.mpr ⟨_, hfirst, bind_eq_ok_iff.mpr ⟨[], rfl, rfl⟩⟩

end Accepted

/-! ## Frames of the response -/

def sampleHighway : HighwayCodec where
  encodeRequest := encodeRequestHead
  decodeResponse _ := none
  md5 _ := sampleMd5

/-- The only block of the object. -/
def sampleBlock (extension : List UInt8) : UploadBlock where
  uin := 10001
  sequence := 1
  subAppId := 1
  appId := 1
  commandId := 1003
  fileSize := 3
  offset := 0
  ticket := asciiBytes "ticket"
  fileMd5 := sampleMd5
  extension := extension
  body := sampleObject
  loginSignature := asciiBytes "login"

theorem sampleBlock_within (extension : List UInt8) :
    (sampleBlock extension).Within sampleObject where
  account := (by decide : (10001 : UInt64) ≠ 0 ∧ (1 : UInt32) ≠ 0 ∧ (1 : UInt32) ≠ 0)
  numbers := (by decide : (1 : UInt32) ≠ 0 ∧ (1003 : UInt32) ≠ 0)
  fileSize := (by decide : (3 : UInt64).toNat = sampleObject.length)
  body := (by decide : sampleObject ≠ [] ∧ sampleObject.length ≤ maxBodyBytes)
  inside := (by decide :
    (0 : UInt64).toNat + sampleObject.length ≤ sampleObject.length)
  ticket := (by decide :
    asciiBytes "ticket" ≠ [] ∧ (asciiBytes "ticket").length ≤ maxSecretBytes)
  loginSignature := (by decide :
    asciiBytes "login" ≠ [] ∧ (asciiBytes "login").length ≤ maxSecretBytes)

/-- The frame of a small object is built. -/
theorem small_bodies_framed :
    ∃ extension, (⟨0, 1005, encodeExtension (responseExtension [encodedBody]), true⟩ :
        RichMediaUpload).extensionFor (responseCodec [encodedBody]) sampleObject = .ok extension ∧
      Returns (encodeUploadBlock sampleHighway (sampleBlock extension)) := by
  have hbudget : ([encodedBody].map List.length).sum ≤ bodiesBudget :=
    Nat.le_trans encodedBody_length.2 (by decide)
  have hinfo : (responseInfo [encodedBody]).length ≤ maxMessageInfoBytes :=
    Nat.le_trans (messageLen_repeatedBytes_le (by decide) encodedBody_short)
      (Nat.le_trans (Nat.add_le_add_left hbudget _) (by decide))
  have hplan := parseWithSubFiles_response [] (by decide) hinfo (1005, true)
  obtain ⟨extension, hextension, hframes⟩ := required_upload_framed (responseCodec [encodedBody])
    sampleHighway (fun _ => rfl) _ _ _ _ hplan _ (List.mem_singleton.mpr rfl)
    ⟨responseExtension [encodedBody], rfl, if_pos rfl⟩ sampleObject (by decide)
  exact ⟨extension, hextension, (hframes (sampleBlock extension) (sampleBlock_within extension)
    rfl).2 [encodedBody] (if_pos rfl) hbudget⟩

/-- A body of the file and one more of a length. -/
def largeBodies (count : Nat) : List (List UInt8) := [encodedBody, List.replicate count 0]

theorem largeBodies_sum (count : Nat) :
    ((largeBodies count).map List.length).sum = encodedBody.length + count := by
  simp only [largeBodies, List.map_cons, List.map_nil, List.sum_cons, List.sum_nil,
    List.length_replicate, Nat.add_zero]

theorem responseInfo_largeBodies_le {count : Nat} (hcount : count ≤ 512 * 1024) :
    (responseInfo (largeBodies count)).length ≤ maxMessageInfoBytes := by
  have hbody := encodedBody_length.2
  have hshort : ∀ body ∈ largeBodies count, body.length < 128 ^ (2 + 1) := by
    refine List.forall_mem_cons.mpr ⟨by omega, List.forall_mem_singleton.mpr ?_⟩
    rw [List.length_replicate]
    omega
  have hlength := messageLen_repeatedBytes_le (by decide : 1 < 16) hshort
  have htwo : (largeBodies count).length = 2 := rfl
  rw [largeBodies_sum, htwo] at hlength
  unfold responseInfo maxMessageInfoBytes
  show messageLen _ ≤ _
  omega

/-- The bodies are copied into the extension. -/
theorem extension_largeBodies_gt {count : Nat} (hcount : maxExtensionBytes ≤ count) :
    maxExtensionBytes < (encodeExtension (responseExtension (largeBodies count))).length := by
  have hbody := encodedBody_length.1
  have hcopied := sum_le_messageLen_repeatedBytes 6 (largeBodies count)
  rw [largeBodies_sum] at hcopied
  show _ < messageLen (extensionFields (responseExtension (largeBodies count)))
  simp only [extensionFields, messageLen_append, responseExtension]
  omega

/-- An accepted response of which no frame is built. -/
def RefusedLocally (bodies : List (List UInt8)) (main : UInt32 × Bool)
    (block : List UInt8 → UploadBlock) (bytes : List UInt8) : Prop :=
  ∃ plan, parseWithSubFiles (responseCodec bodies) (response bodies) main [] = .ok plan ∧
    ∃ upload ∈ plan.uploads, ∃ extension,
      upload.extensionFor (responseCodec bodies) bytes = .ok extension ∧
        (block extension).Within bytes ∧ (block extension).extension = extension ∧
          ¬Returns (encodeUploadBlock sampleHighway (block extension))

theorem refusedLocally_of_large {count : Nat} (hlow : maxExtensionBytes ≤ count)
    (hhigh : count ≤ 512 * 1024) :
    RefusedLocally (largeBodies count) (1003, false) sampleBlock sampleObject := by
  have hplan := parseWithSubFiles_response [List.replicate count 0] (by decide : 1 < 16)
    (responseInfo_largeBodies_le hhigh) (1003, false)
  refine ⟨_, hplan, _, List.mem_singleton.mpr rfl, _, rfl, sampleBlock_within _, rfl, ?_⟩
  intro hframe
  have hlimit := ((encodeUploadBlock_returns_iff (sampleBlock_within _)).mp hframe).1
  exact absurd hlimit (Nat.not_le.mpr (extension_largeBodies_gt hlow))

/-- A message body of 64 KiB, in a message info of at most 1 MiB. -/
theorem large_bodies_refused :
    RefusedLocally (largeBodies 65536) (1003, false) sampleBlock sampleObject :=
  refusedLocally_of_large (by decide) (by decide)

end Media
end Lirvena
