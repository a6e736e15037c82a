/-!
The fields of a text: the longest runs of characters that are no separators.
-/

namespace TextGrammar.Text

def fieldsFrom (isSeparator : Char → Bool) (field : List Char) : List Char → List (List Char)
  | [] => if field.isEmpty then [] else [field.reverse]
  | c :: rest =>
      if isSeparator c then
        if field.isEmpty then fieldsFrom isSeparator [] rest
        else field.reverse :: fieldsFrom isSeparator [] rest
      else fieldsFrom isSeparator (c :: field) rest

def fields (isSeparator : Char → Bool) (text : List Char) : List (List Char) :=
  fieldsFrom isSeparator [] text

end TextGrammar.Text
