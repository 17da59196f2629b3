/-!
    The length of texts in bytes. A character takes one to four bytes. -/

namespace SwaggerPress.Text

/-- The number of bytes that characters take. -/
def byteCount : List Char → Nat
  | [] => 0
  | c :: rest => c.utf8Size + byteCount rest

end SwaggerPress.Text
