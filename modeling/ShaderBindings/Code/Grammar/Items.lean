import ShaderBindings.Code.Grammar.Expressions

/-
  The rules of items, which declare names, and of statements.

  Key definitions include:
    * `Phrase.generics`
    * `Phrase.conditions`
    * `Phrase.signature`
    * `Phrase.item`
    * `Phrase.statement`
-/

------------------------------------------------------------
-- Generics
------------------------------------------------------------

namespace ShaderBindings

namespace Code

namespace Phrase

open Rule

/- How far a name can be seen. -/
def visibility : Phrase :=
  let closing := take (Recognizer.bracket ')')
  let within :=
    anyOf [
      opening '(' ++ words ["crate", "self", "super"] ++
        closing,
      opening '(' ++ word "in" ++ plainPath ++ closing]
  choose [
    starting (word "pub") (optional within),
    (word "crate" ++ absent (symbol "::"), word "crate")]
    nothing

/- A visibility is stated. -/
def visibilityAhead : Phrase :=
  anyOf [word "pub", word "crate" ++ absent (symbol "::")]

/- The value of a generic constant. -/
def constantArgument : Phrase :=
  choose [
    (literal, literal),
    (ident, ident)]
    (present openBrace ++ goal .body)

/- A generic parameter. -/
def genericParameter : Phrase :=
  outerAttributes ++
    choose [
      (lifetime, lifetimeParameter),
      starting ident
        (when (symbol ":")
          (symbol ":" ++
            summed (symbol "+") (symbols [",", ">", "="])
              (goal .bound)) ++
          when (symbol "=")
            (symbol "=" ++ goal (.type true))),
      starting (word "const")
        (ident ++ symbol ":" ++ goal (.type true) ++
          when (symbol "=")
            (symbol "=" ++ constantArgument))]
      (word "_")

/- Generic parameters in angle brackets. -/
def genericParameters : Phrase :=
  symbol "<" ++ listedUntil ">" genericParameter ++
    symbol ">"

/- Generic parameters, if there are any. -/
def generics : Phrase :=
  when (symbol "<") genericParameters

/- The end of a list of conditions. -/
def conditionsEnd : Phrase :=
  anyOf [
    groupEnd, openBrace, symbols [",", ";"], colon,
    symbol "="]

/- A condition on a lifetime or on a type. -/
def condition : Phrase :=
  branch (lifetime ++ symbol ":")
    (lifetime ++ symbol ":" ++
      summed (symbol "+")
        (anyOf [conditionsEnd, symbol ":"]) lifetime)
    (binders ++ goal (.type true) ++ symbol ":" ++
      summed (symbol "+") conditionsEnd (goal .bound))

/- Conditions on generic parameters, if there are any. -/
def conditions : Phrase :=
  when (word "where")
    (word "where" ++
      summed (symbol ",") conditionsEnd condition)

end Phrase

end Code

end ShaderBindings

------------------------------------------------------------
-- Functions
------------------------------------------------------------

namespace ShaderBindings

namespace Code

namespace Phrase

open Rule

/- The parameter that a method is called on. -/
def receiver : Phrase :=
  when (symbol "&") (symbol "&" ++ optional lifetime) ++
    optional (word "mut") ++ word "self"

/- A parameter with a pattern and a type. -/
def typedParameter : Phrase :=
  branch (ident ++ symbol "<")
    (goal (.type true))
    (plainAlternatives ++ symbol ":" ++
      branch (symbol "...") (symbol "...")
        (goal (.type true)))

/- A parameter of a function that is none to call it on. -/
def otherParameter : Phrase :=
  outerAttributes ++
    branch (symbol "...") (symbol "...")
      (absent (receiver ++ absent (symbol ":")) ++
        typedParameter)

/- The parameters of a function. -/
def parameters : Phrase :=
  let first :=
    outerAttributes ++ receiver ++ absent (symbol ":")
  parens
    (when first
      (first ++ branch groupEnd nothing (symbol ",")) ++
      listed otherParameter)

/- A function may start. -/
def signatureAhead : Phrase :=
  optional (word "const") ++ optional (word "async") ++
    optional (word "unsafe") ++ convention ++ word "fn"

/- The name, the parameters and the result of a function. -/
def signature : Phrase :=
  signatureAhead ++ ident ++ generics ++ parameters ++
    result true ++ conditions

/- A function with a body, or without one. -/
def functionDeclaration : Phrase :=
  signature ++ branch (symbol ";") (symbol ";") (goal .body)

end Phrase

end Code

end ShaderBindings

------------------------------------------------------------
-- Types And Their Fields
------------------------------------------------------------

namespace ShaderBindings

namespace Code

namespace Phrase

open Rule

/- The type of a field without a name. -/
def blankFieldType : Phrase :=
  branch
    (anyOf [word "struct", word "union" ++ openBrace])
    (anyWord ++ goal .namedFields)
    (goal (.type true))

/- A field with a name. -/
def namedField : Phrase :=
  outerAttributes ++ visibility ++
    branch (word "_")
      (word "_" ++ symbol ":" ++ blankFieldType)
      (ident ++ symbol ":" ++ goal (.type true))

/- Fields with names. -/
def namedFields : Phrase :=
  braces (listed namedField)

/- Fields in order. -/
def orderedFields : Phrase :=
  parens
    (listed
      (outerAttributes ++ visibility ++ goal (.type true)))

/- A structure, from its keyword on. -/
def record : Phrase :=
  word "struct" ++ ident ++ generics ++
    branch (opening '(')
      (orderedFields ++ conditions ++ symbol ";")
      (conditions ++
        branch openBrace (goal .namedFields) (symbol ";"))

/- A variant of an enumeration. -/
def variant : Phrase :=
  outerAttributes ++ visibility ++ ident ++
    choose [
      (openBrace, goal .namedFields),
      (opening '(', orderedFields)]
      nothing ++
    when (symbol "=")
      (symbol "=" ++ goal (.expression true))

/- An enumeration, from its keyword on. -/
def enumeration : Phrase :=
  word "enum" ++ ident ++ generics ++ conditions ++
    braces (listed variant)

/- A union, from its keyword on. -/
def union : Phrase :=
  word "union" ++ ident ++ generics ++ conditions ++
    goal .namedFields

/- Bounds of an associated type. -/
def typeItemBounds : Phrase :=
  let stop := anyOf [word "where", symbols ["=", ";"]]
  when (symbol ":")
    (symbol ":" ++
      separated (symbol "+") stop (goal .bound))

/- A name for a type, from its keyword on. -/
def typeItem (place : TypeItemPlace) : Phrase :=
  let definition :=
    when (symbol "=") (symbol "=" ++ goal (.type true))
  let start :=
    word "type" ++ ident ++ generics ++ typeItemBounds
  match place with
  | .module => start ++ conditions ++ definition ++ symbol ";"
  | .foreign =>
      start ++
        branch (word "where")
          (conditions ++ definition)
          (definition ++ conditions) ++
        symbol ";"
  | .trait => start ++ definition ++ conditions ++ symbol ";"
  | .implementation =>
      start ++ definition ++ conditions ++ symbol ";"

end Phrase

end Code

end ShaderBindings

------------------------------------------------------------
-- Imports
------------------------------------------------------------

namespace ShaderBindings

namespace Code

namespace Phrase

open Rule

/-
  Names that are imported. Where a path may start at the
  root, each tree of a group may do so.
-/
def useTree (rooted : Bool) : Phrase :=
  let inGroup : Phrase :=
    if rooted then
      branch (symbol "::")
        (symbol "::" ++ goal (.useTree false))
        (goal (.useTree true))
    else
      goal (.useTree false)
  choose [
    starting (anyOf [ident, bareSegment])
      (choose [
        starting (symbol "::") (goal (.useTree false)),
        starting (word "as") identOrBlank]
        nothing),
    (symbol "*", symbol "*")]
    (braces (listed inGroup))

/- An import, from its keyword on. -/
def useItem : Phrase :=
  word "use" ++
    branch (symbol "::")
      (symbol "::" ++ goal (.useTree false))
      (goal (.useTree true)) ++
    symbol ";"

/- The declaration of an outer crate, from its keyword on. -/
def externCrate : Phrase :=
  word "extern" ++ word "crate" ++
    anyOf [word "self", ident] ++
    when (word "as") (word "as" ++ identOrBlank) ++
    symbol ";"

end Phrase

end Code

end ShaderBindings

------------------------------------------------------------
-- Values, Macros And Modules
------------------------------------------------------------

namespace ShaderBindings

namespace Code

namespace Phrase

open Rule

/- A type and a value, each of which may be missing. -/
def staticItem : Phrase :=
  let value :=
    symbol "=" ++ goal (.expression true) ++ symbol ";"
  word "static" ++ optional (word "mut") ++ ident ++
    branch (symbol "=") value
      (symbol ":" ++ goal (.type true) ++
        branch (symbol ";") (symbol ";") value)

/- A constant with a type and perhaps a value. -/
def constantItem : Phrase :=
  word "const" ++ identOrBlank ++ symbol ":" ++
    goal (.type true) ++
    when (symbol "=")
      (symbol "=" ++ goal (.expression true)) ++
    symbol ";"

/- The use of a macro as an item. Braces end it. -/
def macroItem (named : Bool) : Phrase :=
  plainPath ++ symbol "!" ++
    (if named then optional ident else nothing) ++
    branch openBrace anyGroup (anyGroup ++ symbol ";")

/- A macro by a pattern, from its keyword on. -/
def macroDefinition : Phrase :=
  word "macro" ++ ident ++ when (opening '(') anyGroup ++
    present openBrace ++ anyGroup

/- A module, from its keyword on. -/
def moduleItem : Phrase :=
  word "mod" ++ ident ++
    branch (symbol ";") (symbol ";")
      (braces (innerAttributes ++ many (goal .item)))

/- Foreign items with their calling convention. -/
def foreignModule : Phrase :=
  word "extern" ++ optional textLiteral ++
    braces (innerAttributes ++ many (goal .foreignItem))

end Phrase

end Code

end ShaderBindings

------------------------------------------------------------
-- Traits And Implementations
------------------------------------------------------------

namespace ShaderBindings

namespace Code

namespace Phrase

open Rule

/- Bounds of a trait, up to a stop. -/
def supertraits (stop : Phrase) : Phrase :=
  separated (symbol "+") stop (goal .bound)

/- A trait behind its generic parameters. -/
def traitRest : Phrase :=
  when (symbol ":")
    (symbol ":" ++
      supertraits (anyOf [word "where", openBrace])) ++
    conditions ++
    braces (innerAttributes ++ many (goal .traitItem))

/- A trait, with what may stand before its keyword. -/
def traitDeclaration : Phrase :=
  optional (word "unsafe") ++ optional (word "auto") ++
    word "trait" ++ ident ++ generics ++ traitRest

/- A trait or another name for bounds. -/
def traitOrAlias : Phrase :=
  word "trait" ++ ident ++ generics ++
    branch (symbol "=")
      (symbol "=" ++
        supertraits (anyOf [word "where", symbol ";"]) ++
        conditions ++ symbol ";")
      traitRest

/- Generic parameters follow, and no qualified type. -/
def implementationGenerics : Phrase :=
  when
    (symbol "<" ++
      anyOf [
        symbols [">", "#"],
        anyOf [ident, lifetime] ++
          symbols [":", ",", ">", "="],
        word "const"])
    genericParameters

/- An implementation, perhaps of a trait for a type. -/
def implementation : Phrase :=
  optional (word "default") ++ optional (word "unsafe") ++
    word "impl" ++ implementationGenerics ++
    optional (optional (symbol "?") ++ word "const") ++
    when (symbol "!" ++ absent openBrace) (symbol "!") ++
    goal (.type true) ++
    when (word "for") (word "for" ++ goal (.type true)) ++
    conditions ++
    braces
      (innerAttributes ++ many (goal .implementationItem))

end Phrase

end Code

end ShaderBindings

------------------------------------------------------------
-- Items
------------------------------------------------------------

namespace ShaderBindings

namespace Code

namespace Phrase

open Rule

/- The use of a macro, where one may stand. -/
def macroItemHere (named : Bool) : Phrase :=
  present (anyOf [ident, bareSegment, symbol "::"]) ++
    macroItem named

/- A mark of something that may be replaced. -/
def defaultMark : Phrase :=
  word "default" ++ absent (symbol "!")

/- A name for a type that is known by its bounds. -/
def existentialType : Phrase :=
  word "existential" ++ word "type" ++ ident ++ generics ++
    conditions ++ symbol ":" ++
    branch (symbol ";") nothing
      (goal .bound ++
        loop (absent (symbol ";"))
          (symbol "+" ++ goal .bound)) ++
    symbol ";"

/- A type may be given with a trait that holds by itself. -/
def autoTraitAhead : Phrase :=
  word "auto" ++ word "trait"

/-
  An item behind its visibility. Two kinds of items only
  stand where none is stated.
-/
def visibleItem (hidden : Bool) : Phrase :=
  let unsafeItem (rest : Phrase) : Phrase :=
    word "unsafe" ++ rest
  choose [
    (signatureAhead, functionDeclaration),
    (word "extern" ++ word "crate", externCrate),
    (word "extern", foreignModule),
    (word "use", useItem),
    (word "static", staticItem),
    (word "const", constantItem),
    (unsafeItem (anyOf [word "trait", autoTraitAhead]),
      traitDeclaration),
    (unsafeItem (word "impl"), implementation),
    (unsafeItem (word "extern"), unsafeItem foreignModule),
    (unsafeItem (word "mod"), unsafeItem moduleItem),
    (word "mod", moduleItem),
    (word "type", typeItem .module),
    (word "existential",
      if hidden then existentialType else never),
    (word "struct", record),
    (word "enum", enumeration),
    (word "union" ++ ident, union),
    (word "trait", traitOrAlias),
    (autoTraitAhead, traitDeclaration),
    (anyOf [word "impl", defaultMark], implementation),
    (word "macro", macroDefinition)]
    (if hidden then macroItemHere true else never)

/- An item of a module. -/
def item : Phrase :=
  outerAttributes ++
    branch visibilityAhead
      (visibility ++ visibleItem false) (visibleItem true)

/- A method that may lack its body. -/
def methodDeclaration : Phrase :=
  signature ++ branch openBrace (goal .body) (symbol ";")

/- An item of a foreign module. -/
def foreignItem : Phrase :=
  let visible (otherwise : Phrase) : Phrase :=
    choose [
      (signatureAhead, methodDeclaration),
      (word "static",
        word "static" ++ optional (word "mut") ++ ident ++
          symbol ":" ++ goal (.type true) ++
          when (symbol "=")
            (symbol "=" ++ goal (.expression true)) ++
          symbol ";"),
      (word "type", typeItem .foreign)]
      otherwise
  outerAttributes ++
    branch visibilityAhead
      (visibility ++ visible never)
      (visible (macroItemHere false))

/- An item of a trait. -/
def traitItem : Phrase :=
  outerAttributes ++ visibility ++
    optional (word "default") ++
    choose [
      (signatureAhead, methodDeclaration),
      (word "const", constantItem),
      (word "type", typeItem .trait)]
      (macroItemHere false)

/- An item of an implementation. -/
def implementationItem : Phrase :=
  let visible (otherwise : Phrase) : Phrase :=
    choose [
      (signatureAhead, functionDeclaration),
      (word "const", constantItem),
      (word "type", typeItem .implementation)]
      otherwise
  outerAttributes ++
    choose [
      (visibilityAhead,
        visibility ++ optional defaultMark ++ visible never),
      starting defaultMark (visible never)]
      (visible (macroItemHere false))

end Phrase

end Code

end ShaderBindings

------------------------------------------------------------
-- Statements
------------------------------------------------------------

namespace ShaderBindings

namespace Code

namespace Phrase

open Rule

/-
  A statement starts with a macro that ends it: one with
  braces that no selection follows, or one that has a name.
-/
def macroStatementAhead : Phrase :=
  plainPath ++ symbol "!" ++
    anyOf [
      present openBrace ++ anyGroup ++
        absent (symbols [".", "?"]),
      ident]

/- A macro as a statement. -/
def macroStatement : Phrase :=
  plainPath ++ symbol "!" ++ optional ident ++ anyGroup ++
    optional (symbol ";")

/- A statement that binds the names of a pattern. -/
def localStatement : Phrase :=
  word "let" ++ goal .alternatives ++
    when (symbol ":") (symbol ":" ++ goal (.type true)) ++
    when (symbol "=")
      (symbol "=" ++ goal (.expression true) ++
        when (word "else") (word "else" ++ goal .block)) ++
    symbol ";"

/- A constant value is computed, none is declared. -/
def constantExpressionAhead : Phrase :=
  word "const" ++
    anyOf [
      openBrace,
      words ["static", "move"],
      word "async" ++
        absent (words ["unsafe", "extern", "fn"]),
      symbol "|"]

/- A statement is an item. -/
def itemAhead : Phrase :=
  let asyncClosure :=
    word "async" ++ anyOf [word "move", symbol "|"]
  anyOf [
    visibilityAhead,
    words [
      "extern", "use", "fn", "mod", "type", "struct", "enum",
      "trait", "impl", "macro"],
    word "static" ++
      anyOf [word "mut", absent asyncClosure ++ ident],
    absent constantExpressionAhead ++ word "const",
    word "unsafe" ++ absent openBrace,
    word "async" ++ words ["unsafe", "extern", "fn"],
    word "existential" ++ word "type",
    word "union" ++ ident,
    autoTraitAhead,
    word "default" ++ words ["unsafe", "impl"]]

/- A statement. A value has to end the block it stands in. -/
def statement : Phrase :=
  branch (symbol ";") (symbol ";")
    (outerAttributes ++
      choose [
        (macroStatementAhead, macroStatement),
        (word "let", localStatement),
        (itemAhead, goal .item)]
        (leadingExpression
          (optional (symbol ";"))
          (branch (symbol ";") (symbol ";")
            (present groupEnd))))

end Phrase

end Code

end ShaderBindings
