set_option autoImplicit false

namespace SqlClauses.Quoted

def double (quote : Char) : List Char → List Char
  | [] => []
  | c :: rest => if c = quote then quote :: quote :: double quote rest else c :: double quote rest

@[simp] theorem double_nil (quote : Char) : double quote [] = [] := rfl

@[simp] theorem double_append (quote : Char) (xs ys : List Char) :
    double quote (xs ++ ys) = double quote xs ++ double quote ys := by
  induction xs with
  | nil => rfl
  | cons c rest ih => by_cases h : c = quote <;> simp [double, h, ih]

def encodeChars (quote : Char) (text : List Char) : List Char :=
  quote :: (double quote text ++ [quote])

def encode (quote : Char) (text : String) : String :=
  String.ofList (encodeChars quote text.toList)

@[simp] theorem toList_encode (quote : Char) (text : String) :
    (encode quote text).toList = encodeChars quote text.toList := by
  simp [encode]

end SqlClauses.Quoted
