import Mathlib.Algebra.Order.BigOperators.Group.List
import ShaderBindings.Proofs.Binding.Lexemes
import ShaderBindings.Proofs.Binding.Reader

/-
  The code of a binding is read back as the binding. A reader
  takes the lexemes of a piece of code whatever follows them,
  so what is read of the whole is told from its pieces.

  Key definitions include:
    * `Reader.Takes`

  Key theorems include:
    * `Reader.Takes.bind`
    * `Reader.takes_many`
    * `Reader.takes_method`
    * `Reader.takes_binding`
    * `Binding.ofCode?_render`
    * `Binding.ofCode?_of_ofInterface`
-/

------------------------------------------------------------
-- Readers in a Row
------------------------------------------------------------

namespace ShaderBindings

namespace Code

/- A row of lexemes stands in front of what is behind it. -/
theorem behindRow?_append
    (row rest : List Lexeme) :
    behindRow? row (row ++ rest) = some rest := by
  induction row with
  | nil => rfl
  | cons lexeme row ih =>
      rw [List.cons_append, behindRow?, if_pos rfl, ih]

namespace Reader

variable {α β : Type}

/-
  A reader takes lexemes for a value, whatever stands behind
  them.
-/
def Takes
    (reader : Reader α)
    (taken : List Lexeme)
    (value : α) : Prop :=
  ∀ rest, reader (taken ++ rest) = some (value, rest)

/- Lexemes do not start with a fixed piece of code. -/
def Lacks (code : String) (taken : List Lexeme) : Prop :=
  ∀ rest, behindRow? (lexemes code) (taken ++ rest) = none

/- Whether a row starts with code is decided by its front. -/
theorem Lacks.append
    {code : String}
    {taken : List Lexeme}
    (hLacks : Lacks code taken)
    (more : List Lexeme) :
    Lacks code (taken ++ more) := by
  intro rest
  rw [List.append_assoc]
  exact hLacks (more ++ rest)

/- What lacks a piece of code is not empty. -/
theorem Lacks.length_pos
    {code : String}
    {taken : List Lexeme}
    (hLacks : Lacks code taken) :
    0 < taken.length := by
  apply List.length_pos_of_ne_nil
  rintro rfl
  have hFound := behindRow?_append (lexemes code) []
  rw [← List.nil_append (lexemes code ++ []), hLacks]
    at hFound
  cases hFound

namespace Takes

variable {reader : Reader α}
variable {next : α → Reader β}
variable {value : α}
variable {result : β}
variable {taken more : List Lexeme}

/- One reader goes on where another one stops. -/
theorem bind
    (hFirst : reader.Takes taken value)
    (hNext : (next value).Takes more result) :
    (reader >>= next).Takes (taken ++ more) result := by
  intro rest
  change (reader _).bind (fun pair => next pair.1 pair.2) = _
  rw [List.append_assoc, hFirst]
  exact hNext rest

theorem pure (value : α) :
    (pure value : Reader α).Takes [] value :=
  fun _ => rfl

/- A reader that takes nothing may come first. -/
theorem after
    (hFirst : reader.Takes [] value)
    (hNext : (next value).Takes more result) :
    (reader >>= next).Takes more result :=
  bind hFirst hNext

/- A reader that takes nothing may come last. -/
theorem before
    (hFirst : reader.Takes taken value)
    (hNext : (next value).Takes [] result) :
    (reader >>= next).Takes taken result :=
  List.append_nil taken ▸ bind hFirst hNext

/- Where a piece of code stands the first branch is taken. -/
theorem skip
    {next : Bool → Reader β}
    {code : String}
    (hNext : (next true).Takes more result) :
    (skips code >>= next).Takes (lexemes code ++ more)
      result := by
  apply bind ?_ hNext
  intro rest
  unfold skips
  rw [behindRow?_append]

theorem skip_last
    {next : Bool → Reader β}
    {code : String}
    (hNext : (next true).Takes [] result) :
    (skips code >>= next).Takes (lexemes code) result :=
  List.append_nil (lexemes code) ▸ skip hNext

/- Where it does not stand the other branch is taken. -/
theorem pass
    {next : Bool → Reader β}
    {code : String}
    (hLacks : Lacks code taken)
    (hNext : (next false).Takes taken result) :
    (skips code >>= next).Takes taken result := by
  intro rest
  have hSkips :
      skips code (taken ++ rest) =
        some (false, taken ++ rest) := by
    unfold skips
    rw [hLacks rest]
  change
    (skips code _).bind (fun pair => next pair.1 pair.2) = _
  rw [hSkips]
  exact hNext rest

end Takes

variable {value : α}
variable {taken : List Lexeme}

theorem takes_fixed (code : String) :
    (fixed code).Takes (lexemes code) () := by
  intro rest
  unfold fixed
  rw [behindRow?_append]
  rfl

theorem takes_word (text : String) :
    word.Takes [.word text.toList] text := by
  intro rest
  change some (String.ofList text.toList, rest) = _
  rw [String.ofList_toList]

theorem takes_literal (text : String) :
    literal.Takes [.literal text.toList] text := by
  intro rest
  change some (String.ofList text.toList, rest) = _
  rw [String.ofList_toList]

theorem takes_guard
    {condition : Prop}
    [Decidable condition]
    (hHolds : condition) :
    (guard condition : Reader Unit).Takes [] () := by
  intro rest
  rw [guard, if_pos hHolds]
  rfl

theorem takes_ident (name : Ident) :
    ident.Takes [.word name.text.toList] name :=
  (takes_word name.text).bind (Takes.pure _)

theorem takes_hostType (type : HostType) :
    hostType.Takes [.word type.text.toList] type :=
  (takes_word type.text).bind (Takes.pure _)

/- Digits are read as the number that they are written for. -/
theorem takes_number (number : UInt32) :
    Reader.number.Takes (Method.numberSpelling number)
      number := by
  have hDigits :
      (toString number.toNat).toList =
        Nat.toDigits 10 number.toNat := by
    rw [Nat.toString_eq_repr, Nat.toList_repr]
  have hValue :
      Nat.ofDigitChars 10 (toString number.toNat).toList 0 =
        number.toNat := by
    rw [hDigits,
      Nat.ofDigitChars_toDigits (by decide) (by decide)]
  have hAll :
      (toString number.toNat).toList.all Char.isDigit =
        true := by
    rw [hDigits, List.all_eq_true]
    intro c hMember
    exact Nat.isDigit_of_mem_toDigits (by decide) (by decide)
      hMember
  have hSmall : number.toNat < 2 ^ 32 :=
    number.toNat_lt
  unfold Reader.number
  refine Takes.before (takes_word _) ?_
  dsimp only
  rw [hValue]
  refine Takes.after (takes_guard ⟨hAll, hSmall⟩) ?_
  rw [UInt32.ofNat_toNat]
  exact Takes.pure number

/- Behind its items a row is read up to the end. -/
theorem takes_manyWithin
    {stop : String}
    {item : Reader α}
    {spell : α → List Lexeme}
    {values : List α}
    {fuel : Nat}
    (hFuel : values.length ≤ fuel)
    (hItem : ∀ value ∈ values, item.Takes (spell value) value)
    (hStop : ∀ value ∈ values, Lacks stop (spell value)) :
    (manyWithin stop item fuel).Takes
      (values.flatMap spell ++ lexemes stop) values := by
  induction values generalizing fuel with
  | nil =>
      cases fuel with
      | zero =>
          rw [manyWithin]
          exact Takes.before (takes_fixed stop) (Takes.pure [])
      | succ fuel =>
          rw [manyWithin]
          exact Takes.skip_last (Takes.pure [])
  | cons value others ih =>
      cases fuel with
      | zero => cases hFuel
      | succ fuel =>
          rcases List.forall_mem_cons.mp hItem with
            ⟨hValue, hItems⟩
          rcases List.forall_mem_cons.mp hStop with
            ⟨hStart, hStops⟩
          have hOthers :=
            ih (Nat.le_of_succ_le_succ hFuel) hItems hStops
          have hLacks :=
            hStart.append
              (others.flatMap spell ++ lexemes stop)
          rw [manyWithin, List.flatMap_cons, List.append_assoc]
          refine Takes.pass hLacks ?_
          refine Takes.bind hValue ?_
          exact Takes.before hOthers (Takes.pure _)

/- There are lexemes enough for all items of a row. -/
theorem takes_many
    {stop : String}
    {item : Reader α}
    {spell : α → List Lexeme}
    {values : List α}
    (hItem : ∀ value ∈ values, item.Takes (spell value) value)
    (hStop : ∀ value ∈ values, Lacks stop (spell value)) :
    (many stop item).Takes
      (values.flatMap spell ++ lexemes stop) values := by
  have hLength :
      values.length ≤ (values.flatMap spell).length := by
    rw [List.length_flatMap, ← List.length_map]
    apply List.length_le_sum_of_one_le
    intro size hSize
    rcases List.mem_map.mp hSize with ⟨value, hValue, rfl⟩
    exact (hStop value hValue).length_pos
  intro rest
  apply takes_manyWithin ?_ hItem hStop
  rw [List.length_append, List.length_append]
  omega

end Reader

end Code

end ShaderBindings

------------------------------------------------------------
-- Methods
------------------------------------------------------------

namespace ShaderBindings

open Upload

namespace Code

namespace Reader

variable {className name setter : Ident}
variable {uniform : String}
variable {type : HostType}
variable {byValue : Bool}

theorem takes_pointerFormat (format : PointerFormat) :
    pointerFormat.Takes (lexemes (Method.formatWord format))
      format := by
  unfold pointerFormat
  cases format with
  | float => exact Takes.skip_last (Takes.pure _)
  | int =>
      refine Takes.pass (fun _ => rfl) ?_
      exact Takes.skip_last (Takes.pure _)
  | unmapped =>
      refine Takes.pass (fun _ => rfl) ?_
      refine Takes.pass (fun _ => rfl) ?_
      exact Takes.before (takes_fixed _) (Takes.pure _)

theorem takes_pointer (found : AttributePointer) :
    pointer.Takes (Method.pointerSpelling found) found := by
  unfold pointer
  refine Takes.bind (takes_number _) ?_
  refine Takes.bind (takes_fixed _) ?_
  refine Takes.bind (takes_number _) ?_
  refine Takes.bind (takes_fixed _) ?_
  refine Takes.bind (takes_pointerFormat _) ?_
  refine Takes.bind (takes_fixed _) ?_
  refine Takes.bind (takes_number _) ?_
  refine Takes.bind (takes_fixed _) ?_
  exact Takes.bind (takes_number _) (Takes.pure _)

theorem takes_ownCall (method : Ident) :
    ownCall.Takes (Method.ownSpelling method) method := by
  unfold ownCall
  refine Takes.bind (takes_fixed _) ?_
  refine Takes.bind (takes_ident _) ?_
  exact Takes.bind (takes_fixed _) (Takes.pure _)

/- A template is that of one array. -/
theorem arrayOf_elementTemplate (array : String) :
    arrayOf (Text.elementTemplate array) = array := by
  have hTemplate :
      (Text.elementTemplate array).toList =
        array.toList ++ "[\x7bi\x7d]".toList := by
    rw [Text.elementTemplate, String.toList_append]
  have hMark : "[\x7bi\x7d]".toList.length = 5 :=
    rfl
  rw [arrayOf, hTemplate, List.length_append, hMark,
    Nat.add_sub_cancel, List.take_left, String.ofList_toList]

theorem takes_setting :
    (setting type byValue).Takes
      [lexemes "self.shader.", [.word setter.text.toList],
        lexemes "(", [.literal uniform.toList],
        lexemes ", value);", lexemes "\x7d"].flatten
      (.set setter uniform type byValue) := by
  unfold setting
  refine Takes.bind (takes_fixed _) ?_
  refine Takes.bind (takes_ident _) ?_
  refine Takes.bind (takes_fixed _) ?_
  refine Takes.bind (takes_literal _) ?_
  refine Takes.bind (takes_fixed _) ?_
  exact Takes.bind (takes_fixed _) (Takes.pure _)

theorem takes_settingEach :
    (settingEach type).Takes
      [lexemes "for (i, value) in values.iter().enumerate()",
        lexemes "\x7b",
        lexemes "self.shader.", [.word setter.text.toList],
        lexemes "(&format!(",
        [.literal (Text.elementTemplate uniform).toList],
        lexemes "),",
        lexemes (if byValue then "*" else ""),
        lexemes "value);", lexemes "\x7d \x7d"].flatten
      (.setEach setter uniform type byValue) := by
  have hEnd :
      (do
        fixed "value);"
        fixed "\x7d \x7d"
        let array := arrayOf (Text.elementTemplate uniform)
        guard
          (Text.elementTemplate array =
            Text.elementTemplate uniform)
        return Body.setEach setter array type byValue).Takes
        [lexemes "value);", lexemes "\x7d \x7d"].flatten
        (.setEach setter uniform type byValue) := by
    refine Takes.bind (takes_fixed _) ?_
    refine Takes.bind (takes_fixed _) ?_
    dsimp only
    rw [arrayOf_elementTemplate]
    exact Takes.after (takes_guard rfl) (Takes.pure _)
  unfold settingEach
  refine Takes.bind (takes_fixed _) ?_
  refine Takes.bind (takes_fixed _) ?_
  refine Takes.bind (takes_fixed _) ?_
  refine Takes.bind (takes_ident _) ?_
  refine Takes.bind (takes_fixed _) ?_
  refine Takes.bind (takes_literal _) ?_
  refine Takes.bind (takes_fixed _) ?_
  cases byValue with
  | true => exact Takes.skip hEnd
  | false => exact Takes.pass (fun _ => rfl) hEnd

/- A call of another method configures no attribute. -/
theorem lacks_pointer (methods : List Ident) :
    Lacks "self.shader.vertex_attrib_pointer("
      (methods.flatMap Method.ownSpelling ++
        lexemes "\x7d") := by
  cases methods with
  | nil => exact fun _ => rfl
  | cons method others =>
      intro rest
      -- A method of this name is called with no dot behind it.
      have hName :
          behindRow?
              (lexemes "self.shader.vertex_attrib_pointer(")
              ((method :: others).flatMap Method.ownSpelling ++
                lexemes "\x7d" ++ rest) =
            if Lexeme.word "shader".toList =
                .word method.text.toList then
              none
            else
              none :=
        rfl
      rw [hName, ite_self]

theorem takes_shareInstance :
    (Reader.body className).Takes
      [lexemes "() -> &'static Self \x7b",
        lexemes "static INSTANCE: std::sync::OnceLock<",
        [.word className.text.toList],
        lexemes "> = std::sync::OnceLock::new();",
        lexemes "INSTANCE.get_or_init(Self::new)",
        lexemes "\x7d"].flatten
      .shareInstance := by
  unfold Reader.body
  refine Takes.skip ?_
  refine Takes.bind (takes_fixed _) ?_
  refine Takes.bind (takes_word _) ?_
  refine Takes.after (takes_guard rfl) ?_
  refine Takes.bind (takes_fixed _) ?_
  refine Takes.bind (takes_fixed _) ?_
  exact Takes.bind (takes_fixed _) (Takes.pure _)

theorem takes_lendShader :
    (Reader.body className).Takes
      [lexemes "(&self) -> &Shader \x7b",
        lexemes "&self.shader", lexemes "\x7d"].flatten
      .lendShader := by
  unfold Reader.body
  refine Takes.pass (fun _ => rfl) ?_
  refine Takes.skip ?_
  refine Takes.bind (takes_fixed _) ?_
  exact Takes.bind (takes_fixed _) (Takes.pure _)

theorem takes_configure (found : AttributePointer) :
    (Reader.body className).Takes
      [lexemes "(&self) \x7b",
        lexemes "self.shader.vertex_attrib_pointer(",
        Method.pointerSpelling found,
        lexemes ");", lexemes "\x7d"].flatten
      (.configure found) := by
  unfold Reader.body
  refine Takes.pass (fun _ => rfl) ?_
  refine Takes.pass (fun _ => rfl) ?_
  refine Takes.skip ?_
  refine Takes.skip ?_
  refine Takes.bind (takes_pointer found) ?_
  refine Takes.bind (takes_fixed _) ?_
  exact Takes.bind (takes_fixed _) (Takes.pure _)

theorem takes_callEach (methods : List Ident) :
    (Reader.body className).Takes
      [lexemes "(&self) \x7b",
        methods.flatMap Method.ownSpelling,
        lexemes "\x7d"].flatten
      (.callEach methods) := by
  have hCalls :
      (many "\x7d" ownCall).Takes
        (methods.flatMap Method.ownSpelling ++ lexemes "\x7d")
        methods := by
    apply takes_many
    · intro method _
      exact takes_ownCall method
    · intro method _
      exact fun _ => rfl
  unfold Reader.body
  refine Takes.pass (fun _ => rfl) ?_
  refine Takes.pass (fun _ => rfl) ?_
  refine Takes.skip ?_
  rw [List.flatten_cons, List.flatten_singleton]
  refine Takes.pass (lacks_pointer methods) ?_
  exact Takes.before hCalls (Takes.pure _)

theorem takes_set :
    (Reader.body className).Takes
      [lexemes "(&self, value:",
        lexemes (if byValue then "" else "&"),
        [.word type.text.toList],
        lexemes ") \x7b",
        lexemes "self.shader.", [.word setter.text.toList],
        lexemes "(", [.literal uniform.toList],
        lexemes ", value);", lexemes "\x7d"].flatten
      (.set setter uniform type byValue) := by
  unfold Reader.body
  refine Takes.pass (fun _ => rfl) ?_
  refine Takes.pass (fun _ => rfl) ?_
  refine Takes.pass (fun _ => rfl) ?_
  refine Takes.skip ?_
  cases byValue with
  | true =>
      have hNothing :
          lexemes (if true = true then "" else "&") = [] :=
        rfl
      rw [hNothing, List.flatten_cons, List.nil_append]
      refine Takes.pass (fun _ => rfl) ?_
      refine Takes.bind (takes_hostType _) ?_
      exact Takes.bind (takes_fixed _) takes_setting
  | false =>
      refine Takes.skip ?_
      refine Takes.bind (takes_hostType _) ?_
      exact Takes.bind (takes_fixed _) takes_setting

theorem takes_setEach :
    (Reader.body className).Takes
      [lexemes "(&self, values: &[",
        [.word type.text.toList],
        lexemes "]) \x7b",
        lexemes "for (i, value) in values.iter().enumerate()",
        lexemes "\x7b",
        lexemes "self.shader.", [.word setter.text.toList],
        lexemes "(&format!(",
        [.literal (Text.elementTemplate uniform).toList],
        lexemes "),",
        lexemes (if byValue then "*" else ""),
        lexemes "value);", lexemes "\x7d \x7d"].flatten
      (.setEach setter uniform type byValue) := by
  unfold Reader.body
  refine Takes.pass (fun _ => rfl) ?_
  refine Takes.pass (fun _ => rfl) ?_
  refine Takes.pass (fun _ => rfl) ?_
  refine Takes.pass (fun _ => rfl) ?_
  refine Takes.bind (takes_fixed _) ?_
  refine Takes.bind (takes_hostType _) ?_
  exact Takes.bind (takes_fixed _) takes_settingEach

/- A public function is taken when its body is. -/
theorem takes_public
    {body : Body}
    {taken : List Lexeme}
    (hBody : (Reader.body className).Takes taken body) :
    (Reader.method className).Takes
      (lexemes "pub fn" ++ ([.word name.text.toList] ++ taken))
      ⟨name, body⟩ := by
  unfold Reader.method
  refine Takes.pass (fun _ => rfl) ?_
  refine Takes.bind (takes_fixed _) ?_
  refine Takes.bind (takes_ident _) ?_
  exact Takes.before hBody (Takes.pure _)

/- The reader of a class takes each of its methods. -/
theorem takes_method
    (className : Ident)
    (method : Method) :
    (Reader.method className).Takes
      (method.spelling className) method := by
  rcases method with ⟨name, body⟩
  cases body with
  | makeShader program =>
      unfold Reader.method
      refine Takes.skip ?_
      refine Takes.bind (takes_ident _) ?_
      refine Takes.bind (takes_fixed _) ?_
      refine Takes.bind (takes_fixed _) ?_
      refine Takes.bind (takes_literal _) ?_
      refine Takes.bind (takes_fixed _) ?_
      exact Takes.bind (takes_fixed _) (Takes.pure _)
  | shareInstance => exact takes_public takes_shareInstance
  | lendShader => exact takes_public takes_lendShader
  | configure pointer =>
      exact takes_public (takes_configure pointer)
  | callEach methods =>
      exact takes_public (takes_callEach methods)
  | set setter uniform hostType byValue =>
      exact takes_public takes_set
  | setEach setter uniform hostType byValue =>
      exact takes_public takes_setEach

end Reader

end Code

end ShaderBindings

------------------------------------------------------------
-- Bindings
------------------------------------------------------------

namespace ShaderBindings

namespace Code

namespace Reader

theorem takes_segment (name : String) :
    segment.Takes (RuntimePath.segmentSpelling name) name := by
  unfold segment
  refine Takes.bind (takes_word name) ?_
  exact Takes.before (takes_fixed "::") (Takes.pure _)

/- The names of a path are taken up to those of its prelude. -/
theorem takes_runtimePath
    {path : RuntimePath}
    (hPlain : path.generic = false) :
    runtimePath.Takes path.spelling path := by
  rcases path with ⟨rooted, segments, generic⟩
  cases hPlain
  have hNames :
      (many "*;" segment).Takes
        ((segments ++ ["prelude"]).flatMap
            RuntimePath.segmentSpelling ++ lexemes "*;")
        (segments ++ ["prelude"]) := by
    apply takes_many
    · intro name _
      exact takes_segment name
    · intro name _
      exact fun _ => rfl
  have hLacks :
      Lacks "::"
        ((segments ++ ["prelude"]).flatMap
            RuntimePath.segmentSpelling ++ lexemes "*;") := by
    cases segments with
    | nil => exact fun _ => rfl
    | cons name others => exact fun _ => rfl
  have hPath :
      (do
        let names ← many "*;" segment
        guard (names.getLast? = some "prelude")
        return RuntimePath.mk rooted names.dropLast
          false).Takes
        ((segments ++ ["prelude"]).flatMap
            RuntimePath.segmentSpelling ++ lexemes "*;")
        ⟨rooted, segments, false⟩ := by
    refine Takes.before hNames ?_
    refine Takes.after (takes_guard (by simp)) ?_
    rw [List.dropLast_concat]
    exact Takes.pure _
  unfold runtimePath RuntimePath.spelling
  rw [List.flatten_cons, List.flatten_cons,
    List.flatten_singleton]
  cases rooted with
  | true => exact Takes.skip hPath
  | false => exact Takes.pass hLacks hPath

/- No function starts with a brace. -/
theorem lacks_braces
    (className : Ident)
    (method : Method) :
    Lacks "\x7d \x7d" (method.spelling className) := by
  rcases method with ⟨name, body⟩
  cases body with
  | _ => exact fun _ => rfl

/- The reader of a class takes it from its start to its end. -/
theorem takes_binding
    {found : Binding}
    (hPlain : found.runtime.generic = false) :
    Reader.binding.Takes found.spelling found := by
  have hMethods :
      (many "\x7d \x7d" (Reader.method found.className)).Takes
        (found.methods.flatMap
            (Method.spelling found.className) ++
          lexemes "\x7d \x7d")
        found.methods := by
    apply takes_many
    · intro method _
      exact takes_method found.className method
    · intro method _
      exact lacks_braces found.className method
  unfold Reader.binding Binding.spelling
  refine Takes.bind (takes_fixed _) ?_
  refine Takes.bind (takes_ident _) ?_
  refine Takes.bind (takes_fixed _) ?_
  refine Takes.bind (takes_runtimePath hPlain) ?_
  refine Takes.bind (takes_fixed _) ?_
  refine Takes.bind (takes_ident _) ?_
  refine Takes.bind (takes_fixed _) ?_
  refine Takes.bind (takes_word _) ?_
  refine Takes.after (takes_guard rfl) ?_
  refine Takes.bind (takes_fixed _) ?_
  rw [List.flatten_cons, List.flatten_singleton]
  exact Takes.before hMethods (Takes.pure _)

end Reader

end Code

namespace Binding

/- The code of a binding is read back as the binding. -/
theorem ofCode?_render
    {binding : Binding}
    (hWords : binding.WordsWhole) :
    ofCode? binding.render = some binding := by
  have hTaken := Code.Reader.takes_binding hWords.plain []
  rw [List.append_nil] at hTaken
  rw [ofCode?, lexemes_render hWords, hTaken]

/- So it is for a binding that is made for an interface. -/
theorem ofCode?_of_ofInterface
    {names : BindingOptions}
    {interface : Interface}
    {binding : Binding}
    (hBinding :
      (ofInterface names interface).result = .ok binding) :
    ofCode? binding.render = some binding :=
  ofCode?_render (wordsWhole_of_ofInterface hBinding)

end Binding

end ShaderBindings
