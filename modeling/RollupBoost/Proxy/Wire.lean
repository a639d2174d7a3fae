import RollupBoost.Flashblocks.Builder
import RollupBoost.Proxy.Registry

/-!
# A flashblock on the wire

A flashblock that is published goes through three programs. `WebSocketPublisher`
(`flashblocks/outbound.rs`) sends its JSON as a text frame. The websocket proxy takes the bytes
of a text or a binary frame, compresses them if it is told to, and sends them on in a binary
frame. `FlashblocksOverlay` (`flashblocks-rpc/src/flashblocks.rs`) decodes binary frames only:
bytes that are a text which begins with a brace are JSON, and all others are decompressed.

So a frame that comes from the publisher itself is dropped by the overlay. Behind the proxy the
flashblock arrives, unless its compressed form looks like JSON to the overlay.
-/

namespace RollupBoost

open Machine

/-! ## Text -/

/-- `String::from_utf8`. -/
def fromUtf8 (bytes : Bytes) : Option String := String.fromUTF8? ⟨bytes.toArray⟩

theorem fromUtf8_utf8 (text : String) : fromUtf8 (utf8 text) = some text := by
  have hbytes : (⟨(utf8 text).toArray⟩ : ByteArray) = text.toByteArray := by
    simp [utf8]
  rw [fromUtf8, hbytes, String.fromUTF8?, dif_pos text.isValidUTF8]
  rfl

/-- `char::is_whitespace`: the characters with the Unicode property `White_Space`. -/
def isWhitespace (c : Char) : Bool :=
  let code := c.toNat
  (9 ≤ code && code ≤ 13) || code == 0x20 || code == 0x85 || code == 0xA0 || code == 0x1680 ||
    (0x2000 ≤ code && code ≤ 0x200A) || code == 0x2028 || code == 0x2029 || code == 0x202F ||
    code == 0x205F || code == 0x3000

/-- `text.trim_start().starts_with("\x7b")`. -/
def beginsWithBrace (text : String) : Bool :=
  (text.toList.dropWhile isWhitespace).head? == some '{'

/-! ## The three programs -/

/-- What the programs use of `serde_json` and `brotli`. -/
structure WireLibrary where
  toString : FlashblocksPayloadV1 → String
  fromStr : String → Except String FlashblocksPayloadV1
  compress : Bytes → Bytes
  decompress : Bytes → Except String Bytes

namespace WireLibrary

variable (lib : WireLibrary)

/-- The frame of `WebSocketPublisher` for a flashblock. -/
def publish (payload : FlashblocksPayloadV1) : Message := .text (utf8 (lib.toString payload))

/-- What `WebsocketSubscriber` hands to its listener. -/
def handleMessage : Message → Option Bytes
  | .text data => some data
  | .binary data => some data
  | _ => none

/-- The frame that the listener of the proxy broadcasts. -/
def listener (enableCompression : Bool) (data : Bytes) : Message :=
  .binary (if enableCompression then lib.compress data else data)

/-- The bytes are a text that begins with a brace after white space. -/
def plainText (bytes : Bytes) : Option String := (fromUtf8 bytes).filter beginsWithBrace

def tryParseMessage (bytes : Bytes) : Except String String :=
  match plainText bytes with
  | some text => .ok text
  | none => do
      let decompressed ← lib.decompress bytes
      match fromUtf8 decompressed with
      | some text => .ok text
      | none => .error "invalid utf-8 sequence"

def tryDecodeMessage (bytes : Bytes) : Except String FlashblocksPayloadV1 := do
  let text ← lib.tryParseMessage bytes
  match lib.fromStr text with
  | .ok payload => .ok payload
  | .error e => .error ("failed to parse message: " ++ e)

/-- The flashblock that the overlay hands to its cache for a frame, if any. An undecodable
frame is only logged. -/
def overlayReceives : Message → Option FlashblocksPayloadV1
  | .binary bytes => (lib.tryDecodeMessage bytes).toOption
  | _ => none

/-- The way from the publisher to the overlay. -/
inductive Route where
  | direct
  | proxied (enableCompression : Bool)
  deriving DecidableEq

/-- The flashblock that reaches the cache of the overlay when one is published. -/
def deliver (route : Route) (payload : FlashblocksPayloadV1) : Option FlashblocksPayloadV1 :=
  match route with
  | .direct => lib.overlayReceives (lib.publish payload)
  | .proxied enableCompression =>
      match handleMessage (lib.publish payload) with
      | some data => lib.overlayReceives (lib.listener enableCompression data)
      | none => none

variable {lib} {payload : FlashblocksPayloadV1} {bytes : Bytes} {text : String}

theorem plainText_utf8 (hbrace : text.toList.head? = some '{') :
    plainText (utf8 text) = some text := by
  have hbegins : beginsWithBrace text = true := by
    obtain ⟨rest, hrest⟩ := List.head?_eq_some_iff.mp hbrace
    rw [beginsWithBrace, hrest]
    rfl
  simp [plainText, fromUtf8_utf8, hbegins]

theorem overlayReceives_of_parse (h : lib.tryParseMessage bytes = .ok text) :
    lib.overlayReceives (.binary bytes) = (lib.fromStr text).toOption := by
  simp only [overlayReceives, tryDecodeMessage, h]
  cases hdecoded : lib.fromStr text <;> simp [hdecoded, bind, Except.bind, Except.toOption]

theorem overlayReceives_binary_eq_some :
    lib.overlayReceives (.binary bytes) = some payload ↔
      lib.tryDecodeMessage bytes = .ok payload := by
  simp only [overlayReceives]
  cases lib.tryDecodeMessage bytes <;> simp [Except.toOption]

/-- The bytes of the compressor, as the overlay reads them. -/
theorem tryParseMessage_compressed
    (hbrotli : lib.decompress (lib.compress (utf8 text)) = .ok (utf8 text)) :
    lib.tryParseMessage (lib.compress (utf8 text)) =
      .ok ((plainText (lib.compress (utf8 text))).getD text) := by
  simp only [tryParseMessage]
  cases plainText (lib.compress (utf8 text)) with
  | some plain => rfl
  | none => simp [hbrotli, fromUtf8_utf8, bind, Except.bind]

/-- Without compression every flashblock arrives. -/
theorem deliver_uncompressed (hjson : lib.fromStr (lib.toString payload) = .ok payload)
    (hobject : (lib.toString payload).toList.head? = some '{') :
    lib.deliver (.proxied false) payload = some payload := by
  have hparse : lib.tryParseMessage (utf8 (lib.toString payload)) = .ok (lib.toString payload) := by
    rw [tryParseMessage, plainText_utf8 hobject]
  have hdelivers : lib.deliver (.proxied false) payload =
      lib.overlayReceives (.binary (utf8 (lib.toString payload))) := rfl
  rw [hdelivers, overlayReceives_of_parse hparse, hjson]
  rfl

/-- A flashblock that is published reaches the cache of the overlay exactly if it goes through
the proxy and, when the proxy compresses, its compressed form is not a text that begins with a
brace, or that text is the flashblock too. -/
theorem delivered_iff (lib : WireLibrary) (route : Route) (payload : FlashblocksPayloadV1)
    (hjson : lib.fromStr (lib.toString payload) = .ok payload)
    (hobject : (lib.toString payload).toList.head? = some '{')
    (hbrotli : route = .proxied true →
      lib.decompress (lib.compress (utf8 (lib.toString payload))) =
        .ok (utf8 (lib.toString payload))) :
    lib.deliver route payload = some payload ↔
      route ≠ .direct ∧ (route = .proxied true →
        ∀ text, plainText (lib.compress (utf8 (lib.toString payload))) = some text →
          lib.fromStr text = .ok payload) := by
  cases route with
  | direct => simp [deliver, publish, overlayReceives]
  | proxied enableCompression =>
      cases enableCompression with
      | false => simp [deliver_uncompressed hjson hobject]
      | true =>
          have hdelivers : lib.deliver (.proxied true) payload =
              lib.overlayReceives (.binary (lib.compress (utf8 (lib.toString payload)))) := rfl
          have hparse := tryParseMessage_compressed (hbrotli rfl)
          simp only [ne_eq, reduceCtorEq, not_false_eq_true, true_and, true_implies]
          rw [hdelivers, overlayReceives_of_parse hparse]
          cases plainText (lib.compress (utf8 (lib.toString payload))) with
          | none => simp [hjson, Except.toOption]
          | some text =>
              simp only [Option.getD_some, Option.some.injEq, forall_eq']
              cases lib.fromStr text <;> simp [Except.toOption]

/-- The quoted hex form of zero bytes. -/
def zeros (count : Nat) : String := "\"0x" ++ String.ofList (List.replicate count '0') ++ "\""

@[irreducible] def emptyFields : String :=
  "\"payload_id\":" ++ zeros 16 ++ ",\"index\":0,\"diff\":\x7b\"state_root\":" ++ zeros 64 ++
    ",\"receipts_root\":" ++ zeros 64 ++ ",\"logs_bloom\":" ++ zeros 512 ++
    ",\"gas_used\":\"0x0\",\"block_hash\":" ++ zeros 64 ++
    ",\"transactions\":[],\"withdrawals\":[],\"withdrawals_root\":" ++ zeros 64 ++
    "\x7d,\"metadata\":null"

/-- The JSON of the empty flashblock. -/
def emptyJson : String := "\x7b" ++ (emptyFields ++ "\x7d")

theorem emptyJson_head : emptyJson.toList.head? = some '{' := by
  rw [emptyJson, String.toList_append]
  rfl

/-- The codec of the empty flashblock, without a compressor. -/
def emptyLibrary : WireLibrary where
  toString _ := emptyJson
  fromStr text := if text = emptyJson then .ok default else .error "expected value"
  compress bytes := bytes
  decompress bytes := .ok bytes

theorem emptyLibrary_fromStr (payload : FlashblocksPayloadV1) :
    emptyLibrary.fromStr (emptyLibrary.toString payload) = .ok default :=
  if_pos rfl

/-- The same JSON, compressed with the quality and the window of the proxy. -/
def emptyBrotli : Bytes :=
  [0x1b, 0xdc, 0x03, 0x00, 0x04, 0xa2, 0xcd, 0x4d, 0xfb, 0xcd, 0x3f, 0x38, 0xff, 0xb4, 0x46,
    0x3c, 0x4f, 0xaa, 0x08, 0x86, 0xd1, 0x3b, 0x14, 0x91, 0x2d, 0x0f, 0xd8, 0xab, 0x24, 0x0d,
    0x1f, 0x30, 0x0b, 0xb4, 0xbb, 0x74, 0x30, 0xb6, 0x31, 0x0e, 0x29, 0x18, 0x30, 0xcc, 0x6d,
    0x4a, 0x5d, 0xf1, 0x07, 0x15, 0x0c, 0xf5, 0x93, 0x5d, 0xf4, 0x71, 0xf9, 0x3b, 0xa6, 0x67,
    0xeb, 0x19, 0x25, 0x3d, 0xa9, 0x80, 0x70, 0xf4, 0x04, 0x4d, 0x42, 0xee, 0xb5, 0xa2, 0x1f,
    0xb1, 0x7c, 0x15, 0x7b, 0xcf, 0x7a, 0xae, 0x35, 0x7e, 0x07, 0xe1, 0x2e, 0x47, 0xe9, 0xd7,
    0x8a, 0xc5, 0x31, 0x66, 0x0b, 0x33, 0x74, 0xac, 0x3f, 0xeb, 0xe9, 0x65, 0x46, 0x68, 0x1e,
    0xc6, 0x17, 0xc1, 0x04, 0x10, 0x68, 0x63, 0xa6, 0x64, 0x23, 0x80, 0xc7, 0x0a, 0xaf, 0x5f,
    0x30, 0xe5, 0x40, 0xb7, 0x5d, 0x60, 0x2c, 0x89, 0xdf, 0xc6, 0x47, 0x73, 0x0a, 0xe6, 0xf1,
    0x0b, 0x4e, 0x2b, 0xb6, 0xa6, 0x39, 0xea, 0xcf, 0xb2, 0x1f]

def brotliLibrary : WireLibrary :=
  { emptyLibrary with
    compress := fun bytes => if bytes = utf8 emptyJson then emptyBrotli else bytes
    decompress := fun bytes =>
      if bytes = emptyBrotli then .ok (utf8 emptyJson) else .error "Invalid Data" }

theorem brotliLibrary_compress : brotliLibrary.compress (utf8 emptyJson) = emptyBrotli :=
  if_pos rfl

theorem brotliLibrary_decompress : brotliLibrary.decompress emptyBrotli = .ok (utf8 emptyJson) := by
  simp [brotliLibrary]

theorem plainText_emptyBrotli : plainText emptyBrotli = none := by decide +kernel

/-- The empty flashblock arrives through a proxy, whether it compresses or not. -/
theorem delivered_through_proxy :
    brotliLibrary.deliver (.proxied true) default = some default ∧
      brotliLibrary.deliver (.proxied false) default = some default := by
  have hbrotli : brotliLibrary.decompress (brotliLibrary.compress (utf8 emptyJson)) =
      .ok (utf8 emptyJson) := by
    rw [brotliLibrary_compress, brotliLibrary_decompress]
  have hplain : ∀ text, plainText (brotliLibrary.compress (utf8 emptyJson)) = some text →
      brotliLibrary.fromStr text = .ok default := by
    rw [brotliLibrary_compress, plainText_emptyBrotli]
    exact fun _ hnone => absurd hnone (by simp)
  constructor
  · exact (delivered_iff brotliLibrary (.proxied true) default (emptyLibrary_fromStr default)
      emptyJson_head fun _ => hbrotli).mpr ⟨by decide, fun _ => hplain⟩
  · exact (delivered_iff brotliLibrary (.proxied false) default (emptyLibrary_fromStr default)
      emptyJson_head fun _ => hbrotli).mpr ⟨by decide, fun _ => hplain⟩

/-- Straight from the publisher it does not. -/
theorem dropped_from_publisher :
    emptyLibrary.fromStr (emptyLibrary.toString default) = .ok default ∧
      (∀ bytes, emptyLibrary.decompress (emptyLibrary.compress bytes) = .ok bytes) ∧
      emptyLibrary.deliver .direct default ≠ some default := by
  refine ⟨emptyLibrary_fromStr default, fun _ => rfl, ?_⟩
  simp only [deliver, publish, overlayReceives]
  exact (Option.some_ne_none _).symm

end WireLibrary

end RollupBoost
