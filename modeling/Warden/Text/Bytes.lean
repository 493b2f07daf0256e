namespace Warden.Text

abbrev Bytes := List UInt8

def bytes (text : String) : Bytes := text.toUTF8.data.toList

def ofBytes? (bytes : Bytes) : Option String := String.fromUTF8? ⟨bytes.toArray⟩

/-- The characters from a place on, up to the first that cannot be read. -/
def readable (bytes : ByteArray) (start : Nat) : List Char :=
  if _h : start < bytes.size then
    match bytes.utf8DecodeChar? start with
    | some c => c :: readable bytes (start + c.utf8Size)
    | none => ['\x00']
  else []
termination_by bytes.size - start
decreasing_by
  have := c.utf8Size_pos
  omega

def chars (bytes : Bytes) : List Char :=
  match ofBytes? bytes with
  | some text => text.toList
  | none => readable ⟨bytes.toArray⟩ 0

theorem ofBytes?_bytes (text : String) : ofBytes? (bytes text) = some text :=
  dif_pos text.isValidUTF8

theorem chars_bytes (text : String) : chars (bytes text) = text.toList := by
  rw [chars, ofBytes?_bytes]

end Warden.Text
