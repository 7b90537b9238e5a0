/-!
# Texts as bytes

The UTF-8 form of a text and its reading back. Files and devices hold bytes; everything inside a
line is reasoned about as a list of characters. `decode?_encode` says that the written form of a
text is read back as that text, and `encode_append` that it is formed character by character.
-/

namespace QueueJournal

/-- The content of a file, or what is handed to one. -/
abbrev Bytes := List UInt8

namespace Text

/-- The UTF-8 form of a text. -/
def encode (s : List Char) : Bytes :=
  s.flatMap String.utf8EncodeChar

/-- The text that has this UTF-8 form, if there is one. -/
def decode? (bytes : Bytes) : Option (List Char) :=
  bytes.toByteArray.utf8Decode?.map Array.toList

/-- How many bytes the UTF-8 form of a text takes. -/
def byteCount : List Char → Nat
  | [] => 0
  | c :: s => c.utf8Size + byteCount s

@[simp]
theorem encode_nil : encode [] = [] := rfl

@[simp]
theorem encode_cons (c : Char) (s : List Char) :
    encode (c :: s) = String.utf8EncodeChar c ++ encode s := rfl

@[simp]
theorem encode_append (s t : List Char) : encode (s ++ t) = encode s ++ encode t :=
  List.flatMap_append

@[simp]
theorem byteCount_nil : byteCount [] = 0 := rfl

@[simp]
theorem byteCount_cons (c : Char) (s : List Char) :
    byteCount (c :: s) = c.utf8Size + byteCount s := rfl

/-- The byte count of a text is the length of its UTF-8 form. -/
theorem length_encode (s : List Char) : (encode s).length = byteCount s := by
  induction s with
  | nil => rfl
  | cons c s ih => simp [ih, String.length_utf8EncodeChar]

/-- Reading the UTF-8 form of a text gives that text. -/
theorem decode?_encode (s : List Char) : decode? (encode s) = some s := by
  have h : (encode s).toByteArray = s.utf8Encode := rfl
  simp [decode?, h]

end Text

end QueueJournal
