import SecretCodec.Text.Utf8

/-!
# Places in a text

What stands at the front or at the end of a text is found again by its length (`first_append`,
`last_append`). A text of ASCII bytes has a character for each of them.
-/

namespace SecretCodec.Text

variable {front back : String} {n : Nat}

/-- The first characters of a text. -/
def first (n : Nat) (text : String) : String := String.ofList (text.toList.take n)

/-- The last characters of a text. -/
def last (n : Nat) (text : String) : String := String.ofList (text.toList.drop (text.length - n))

theorem first_append (h : front.length = n) : first n (front ++ back) = front := by
  have whole : front.toList.length = n := String.length_toList.trans h
  apply String.toList_inj.1
  simp [first, List.take_left' whole]

theorem last_append (h : back.length = n) : last n (front ++ back) = back := by
  have rest : front.toList.length = (front ++ back).length - n := by
    rw [String.length_append, h, Nat.add_sub_cancel, String.length_toList]
  apply String.toList_inj.1
  rw [last, String.toList_ofList, String.toList_append, List.drop_left' rest]

theorem length_ofAscii (bytes : Bytes) : (ofAscii bytes).length = bytes.length := by
  simp [ofAscii]

theorem ofAscii_append (bytes more : Bytes) :
    ofAscii (bytes ++ more) = ofAscii bytes ++ ofAscii more := by
  simp [ofAscii, String.ofList_append]

end SecretCodec.Text
