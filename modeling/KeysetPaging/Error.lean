import KeysetPaging.Filter.Basic
import KeysetPaging.SortOrder
import KeysetPaging.Token.Delimiters

/-!
# Errors

The causes for which a paging operation fails, and their wording.
-/

namespace KeysetPaging

/-- Why a paging operation fails. -/
inductive Error where
  /-- A token is decoded without an element type. -/
  | contextUnbound
  /-- A token is applied to a query without an element type. -/
  | untypedQuery
  /-- A token is set on a handler that has one. -/
  | tokenAlreadySet
  | invalidLiteral (text : String)
  | unknownType (name : String)
  | unknownProperty (typeName property : String)
  | notAnEnum (property : String)
  | unknownEnumMember (typeName member : String)
  | invalidOrder (fault : OrderFault)
  | invalidFilter (fault : FilterFault)
  | invalidDelimiters (fault : DelimiterFault)
deriving DecidableEq

namespace Error

def message : Error → String
  | .contextUnbound =>
      "skip token decoding requires a bound element type and model"
  | .untypedQuery => "apply_to is not supported on an untyped query"
  | .tokenAlreadySet => "skip token is already set on this handler"
  | .invalidLiteral text => "invalid URI literal: " ++ text
  | .unknownType name => "unknown type: " ++ name
  | .unknownProperty typeName property =>
      "unknown property '" ++ property ++ "' on type '" ++ typeName ++ "'"
  | .notAnEnum property => "property '" ++ property ++ "' is not enum-typed"
  | .unknownEnumMember typeName member =>
      "'" ++ member ++ "' is not a member of enum '" ++ typeName ++ "'"
  | .invalidOrder fault => "unsupported $orderby: " ++ fault.message
  | .invalidFilter fault => "invalid filter: " ++ fault.message
  | .invalidDelimiters fault =>
      "invalid skip token configuration: " ++ fault.message

end Error

end KeysetPaging
