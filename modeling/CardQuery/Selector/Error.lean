import CardQuery.Card.Property
import CardQuery.Entity
import CardQuery.Selector.Token

namespace CardQuery

inductive InputFault where
  | blankSelector
  | notSeated (selector : String)
  | unknownCardName
  | expects (key : PropertyKey) (kind : PropertyKind)
  | described (context : String)
  deriving DecidableEq, Repr

inductive TokenFault where
  | word (fault : WordFault)
  | ownerConflict (earlier : OwnerWord)
  | badPattern
  | described (reason : String)
  deriving DecidableEq, Repr

-- Well formed, but without a sensible reading.
inductive MeaningFault where
  | noType
  | ordersText (op : Operator) (key : PropertyKey)
  | valueNotNumeric (op : Operator) (value : String)
  | propertyNotNumeric (op : Operator) (key : PropertyKey) (card : EntityId) (value : Value)
  | described (reason : String)
  deriving DecidableEq, Repr

inductive SelectorError where
  | input (value : String) (fault : InputFault)
  | malformed (selector token : String) (fault : TokenFault)
  | meaningless (selector : String) (fault : MeaningFault)
  deriving DecidableEq, Repr

inductive ErrorKind where
  | input | malformed | meaningless
  deriving DecidableEq, Repr

def PropertyKind.shown : PropertyKind → String
  | .integer => "an integer"
  | .text => "text"

def InputFault.message : InputFault → String
  | blankSelector => "selector text must not be empty"
  | notSeated selector => "perspective for selector " ++ Text.quoted selector ++ " is not a seated player"
  | unknownCardName => "card name not in registry"
  | expects key kind => "property " ++ key.label ++ " expects " ++ kind.shown
  | described context => context

def WordFault.message : WordFault → String
  | missingTagName => "tag name missing after `#`"
  | missingPropertyName => "property name missing after `.`"
  | missingValue => "comparison operator without value"
  | strayText rest => "unexpected " ++ Text.quoted rest ++ " after property name"
  | unknownOperator rest => "unknown operator in " ++ Text.quoted rest

def TokenFault.message : TokenFault → String
  | word fault => fault.message
  | ownerConflict earlier => "conflicts with `" ++ earlier.text ++ "`"
  | badPattern => "invalid match pattern"
  | described reason => reason

def MeaningFault.message : MeaningFault → String
  | noType => "selector names no type"
  | ordersText op key => "`" ++ op.symbol ++ "` cannot order text property " ++ key.label
  | valueNotNumeric op value => "`" ++ op.symbol ++ "` needs a numeric value, got " ++ Text.quoted value
  | propertyNotNumeric op key card value =>
    "`" ++ op.symbol ++ "` needs a numeric property, " ++ key.label ++ " of " ++ card.shown ++ " is " ++ value.shown
  | described reason => reason

namespace SelectorError

def kind : SelectorError → ErrorKind
  | input .. => .input
  | malformed .. => .malformed
  | meaningless .. => .meaningless

def message : SelectorError → String
  | input value fault => "invalid input " ++ Text.quoted value ++ " (" ++ fault.message ++ ")"
  | malformed selector token fault =>
    "syntax error in selector " ++ Text.quoted selector ++ " at " ++ Text.quoted token ++ ": " ++ fault.message
  | meaningless selector fault =>
    "semantic error in selector " ++ Text.quoted selector ++ ": " ++ fault.message

end SelectorError

def tokenize (selector : String) : Except SelectorError (List Token) :=
  (Text.words selector).mapM fun word =>
    (Token.ofWord word).mapError fun fault => .malformed selector word (.word fault)

end CardQuery
