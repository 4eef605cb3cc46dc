/-!
# A short fingerprint of bytes

The 32-bit FNV-1a digest, by which a call log shows what was uploaded without repeating it.
-/

namespace LiveShader

/-- The FNV-1a digest: each byte is mixed in by exclusive or, then multiplied by the FNV prime. -/
def digest (bytes : List UInt8) : UInt32 :=
  bytes.foldl (fun h b => (h ^^^ b.toUInt32) * 0x01000193) 0x811c9dc5

/-- The digest of the UTF-8 bytes of a text. -/
def digestText (text : String) : UInt32 :=
  digest text.toUTF8.toList

end LiveShader
