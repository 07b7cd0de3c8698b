import TemplateTree.Command
import TemplateTree.Proofs.Document.Accepted
import TemplateTree.Proofs.Document.WellFormed

namespace TemplateTree

open Json

variable {dialect : Dialect}

namespace Template

/-- A value is read from its text, less what is nested too deep. -/
theorem read?_print (hdialect : dialect.Lawful) {json : Json} (h : json.WellFormed) :
    read? dialect (dialect.print json ++ "\n") = ofJson? dialect.reals (json.cut dialect.maxDepth) := by
  rw [read?, hdialect.parse?_print h, Option.bind_some]

theorem isSome_read?_write_iff (hdialect : dialect.Lawful) (t : Template) :
    (read? dialect (t.write dialect ++ "\n")).isSome ↔
      (∀ n ∈ t.nodes, n.FiniteOnly) ∧ (t.toJson dialect.reals).depth ≤ dialect.maxDepth := by
  rw [write, read?_print hdialect (t.wellFormed_toJson hdialect.reals)]
  exact t.takenIff hdialect.reals dialect.maxDepth _ (Nat.le_refl _)

end Template

namespace Command

variable {arguments : Arguments} {text stderr out : String} {t : Template}

/-- The text that comes from a compiled tree. -/
theorem compileText_eq_ok {compiler : Compiler} {compilation : Compilation}
    (hread : Template.read? dialect text = some t)
    (hcompile : (Compiler.ofOptions (compileOptions arguments)).compile t = (compiler, .ok compilation)) :
    compileText dialect arguments text =
      (diagnosticsText arguments.input compiler.diagnostics ++
        if arguments.stats then statsText compilation.stats else "",
        .ok (compilation.template.write dialect ++ "\n")) := by
  simp only [compileText, hread, hcompile]

/-- A text that the command emits comes from a tree that was read and compiled. -/
theorem exists_of_compileText_eq_ok (h : compileText dialect arguments text = (stderr, .ok out)) :
    ∃ t compilation, Template.read? dialect text = some t ∧
      ((Compiler.ofOptions (compileOptions arguments)).compile t).2 = .ok compilation ∧
      out = compilation.template.write dialect ++ "\n" := by
  cases hread : Template.read? dialect text with
  | none => simp [compileText, hread] at h
  | some t =>
    cases hcompile : (Compiler.ofOptions (compileOptions arguments)).compile t with
    | mk compiler result =>
      cases result with
      | error error => simp [compileText, hread, hcompile] at h
      | ok compilation =>
        rw [compileText_eq_ok hread hcompile] at h
        cases h
        exact ⟨t, compilation, rfl, by rw [hcompile], rfl⟩

/-- The text that the command emits is accepted as a tree exactly if the compiled tree has only finite
    numbers and is not nested too deep. -/
theorem isSome_read?_iff_of_compileText (hdialect : dialect.Lawful)
    (h : compileText dialect arguments text = (stderr, .ok out)) :
    ∃ t compilation, Template.read? dialect text = some t ∧
      ((Compiler.ofOptions (compileOptions arguments)).compile t).2 = .ok compilation ∧
      out = compilation.template.write dialect ++ "\n" ∧
      ((Template.read? dialect out).isSome ↔ (∀ n ∈ compilation.template.nodes, n.FiniteOnly) ∧
        (compilation.template.toJson dialect.reals).depth ≤ dialect.maxDepth) := by
  obtain ⟨t, compilation, hread, hcompile, rfl⟩ := exists_of_compileText_eq_ok h
  exact ⟨t, compilation, hread, hcompile, rfl, compilation.template.isSome_read?_write_iff hdialect⟩

/-- The arguments that name a file and nothing else. -/
def plainArguments : Arguments := ⟨"main.json", none, false, false, false, false⟩

/-- A template that returns a number. -/
def returning (x : Float32) : Template where
  span := ⟨1, 0, 8⟩
  name := ⟨⟨1, 0, 4⟩, "main"⟩
  params := []
  takesSubstitution := false
  body := some (.ret ⟨1, 0, 8⟩ (some (.literal ⟨⟨1, 7, 8⟩, .ofTy .float, false⟩ (.number (.float x)))))
  returnTy := none

/-- The expression of such a template with the number as a text has it. -/
def numeralLiteral (numeral : Numeral) : Json :=
  exprObject ⟨⟨1, 7, 8⟩, .ofTy .float, false⟩ (variant "NumberLiteral" (variant "Float" (num numeral)))

/-- Such a template with the number as a text has it. -/
def returningNumeral (numeral : Numeral) : Json :=
  obj [("info", Span.toJson ⟨1, 0, 8⟩), ("name", Name.toJson ⟨⟨1, 0, 4⟩, "main"⟩), ("params", arr []),
    ("statement", variant "Return" (obj [("info", Span.toJson ⟨1, 0, 8⟩), ("expression", numeralLiteral numeral)]))]

theorem wellFormed_returningNumeral {numeral : Numeral} (h : numeral.WellFormed) :
    (returningNumeral numeral).WellFormed :=
  have hkind : (variant "NumberLiteral" (variant "Float" (num numeral))).WellFormed :=
    wellFormed_variant (wellFormed_variant h)
  ⟨Span.wellFormed_toJson _, Name.wellFormed_toJson _, trivial,
    wellFormed_variant ⟨Span.wellFormed_toJson _, wellFormed_exprObject _ hkind, trivial⟩, trivial⟩

theorem decode?_numeralLiteral {form : RealForm} {numeral : Numeral} {x : Float32} {n : Nat}
    (h : form.single.decode? (num numeral) = some x) (hn : 4 ≤ n) :
    Expr.decode? form n (numeralLiteral numeral) =
      some (.literal ⟨⟨1, 7, 8⟩, .ofTy .float, false⟩ (.number (.float x))) := by
  have hnumber : Number.ofJson? form (variant "Float" (num numeral)) = some (.float x) :=
    calc Number.ofJson? form (variant "Float" (num numeral)) = (form.single.decode? (num numeral)).map .float := rfl
      _ = some (.float x) := by rw [h, Option.map_some]
  refine Expr.decode?_of_variant hn (.refl _) rfl nofun fun {_ m} _ hshort => ?_
  obtain ⟨_, rfl, hnum⟩ := hshort.variant rfl nofun
  cases hnum
  calc Expr.decodeKind? form (m + 1) _ (variant "NumberLiteral" (variant "Float" (num numeral)))
      = ((Number.ofJson? form (variant "Float" (num numeral))).map .number).map (.literal _) := rfl
    _ = some (.literal _ (.number (.float x))) := by rw [hnumber, Option.map_some, Option.map_some]

/-- The template is read with the number that its numeral stands for. -/
theorem ofJson?_returningNumeral {form : RealForm} {numeral : Numeral} {x : Float32}
    (h : form.single.decode? (num numeral) = some x) :
    Template.ofJson? form (returningNumeral numeral) = some (returning x) := by
  calc Template.ofJson? form (returningNumeral numeral)
      = ((((Expr.decode? form 5 (numeralLiteral numeral)).bind fun e => some (some e)).bind fun value? =>
          some (Stmt.ret ⟨1, 0, 8⟩ value?)).bind fun s => some (some s)).bind fun body =>
            some { returning x with body := body } := rfl
    _ = some (returning x) := by rw [decode?_numeralLiteral h (by decide)]; rfl

theorem read?_returningNumeral (hdialect : dialect.Lawful) (hdepth : 7 ≤ dialect.maxDepth) {numeral : Numeral}
    {x : Float32} (hnumeral : numeral.WellFormed) (hread : dialect.reals.single.decode? (num numeral) = some x) :
    Template.read? dialect (dialect.print (returningNumeral numeral) ++ "\n") = some (returning x) := by
  obtain ⟨d, hd⟩ := Nat.exists_eq_add_of_le' hdepth
  have hcut : (returningNumeral numeral).cut dialect.maxDepth = returningNumeral numeral := by
    rw [hd]
    rfl
  rw [Template.read?_print hdialect (wellFormed_returningNumeral hnumeral), hcut, ofJson?_returningNumeral hread]

/-- A number that is returned is left as it is. -/
theorem compileText_eq_returning {x : Float32} (hread : Template.read? dialect text = some (returning x)) :
    compileText dialect plainArguments text = ("", .ok ((returning x).write dialect ++ "\n")) := by
  have hcompile : (Compiler.ofOptions (compileOptions plainArguments)).compile (returning x) =
      (.ofOptions ⟨true, true⟩, .ok ⟨returning x, ⟨(returning x).census, (returning x).census, 0⟩⟩) := rfl
  exact compileText_eq_ok hread hcompile

theorem finiteOnly_returning_iff (x : Float32) :
    (∀ n ∈ (returning x).nodes, n.FiniteOnly) ↔ (singleDatum x).IsFinite := by
  simp [returning, Template.nodes, optionalStmtNodes, Stmt.nodes, optionalExprNodes, Expr.nodes, Node.NumberIs,
    Number.IsFinite]

/-- The text of a template that returns the largest number of 32 bits. -/
def largestText : String :=
  Dialect.standard.print (returningNumeral
    ⟨false, [.ofChar '3'], ['4', '0', '2', '8', '2', '3', '5'].map Digit.ofChar, some 38⟩) ++ "\n"

set_option maxRecDepth 10000 in
theorem read?_largestText : Template.read? .standard largestText = some (returning (.ofBits 0x7f7fffff)) :=
  read?_returningNumeral Dialect.lawful_standard (by decide) ⟨by simp, by simp [Digit.zero]⟩ rfl

theorem largestText_isSome_read? :
    ∃ out, compileText .standard plainArguments largestText = ("", .ok out) ∧
      (Template.read? .standard out).isSome := by
  have h := compileText_eq_returning read?_largestText
  obtain ⟨t, compilation, hread, hcompile, -, hiff⟩ := isSome_read?_iff_of_compileText Dialect.lawful_standard h
  obtain rfl : returning (.ofBits 0x7f7fffff) = t := Option.some.inj (read?_largestText.symm.trans hread)
  cases hcompile
  have hdatum : singleDatum (.ofBits 0x7f7fffff) = .finite false 0xffffff 104 := by decide +kernel
  refine ⟨_, h, hiff.2 ⟨(finiteOnly_returning_iff _).2 ?_, ?_⟩⟩
  · rw [hdatum]
    trivial
  · decide +kernel

/-- The command cannot read all that it writes where a numeral is read as a number that is not finite. -/
theorem exists_read?_eq_none (hdialect : dialect.Lawful) (hdepth : 7 ≤ dialect.maxDepth) {numeral : Numeral}
    {x : Float32} (hnumeral : numeral.WellFormed) (hread : dialect.reals.single.decode? (num numeral) = some x)
    (hx : ¬ (singleDatum x).IsFinite) :
    ∃ out, compileText dialect plainArguments (dialect.print (returningNumeral numeral) ++ "\n") = ("", .ok out) ∧
      Template.read? dialect out = none := by
  refine ⟨_, compileText_eq_returning (read?_returningNumeral hdialect hdepth hnumeral hread), ?_⟩
  rw [← Option.not_isSome_iff_eq_none, Template.isSome_read?_write_iff hdialect, finiteOnly_returning_iff]
  exact fun h => hx h.1

/-- The text of a template that returns a number beyond the range of 32 bits. -/
def overflowText : String :=
  Dialect.standard.print (returningNumeral ⟨false, [.ofChar '1'], [], some 39⟩) ++ "\n"

set_option maxRecDepth 10000 in
theorem overflowText_read?_eq_none :
    ∃ out, compileText .standard plainArguments overflowText = ("", .ok out) ∧
      Template.read? .standard out = none := by
  have hread : RealForm.decimal.single.decode? (num ⟨false, [.ofChar '1'], [], some 39⟩) =
      some (.ofBits 0x7f800000) := rfl
  have hdatum : singleDatum (.ofBits 0x7f800000) = .infinite false := by decide +kernel
  refine exists_read?_eq_none Dialect.lawful_standard (by decide) ⟨by simp, by simp [Digit.zero]⟩ hread ?_
  rw [hdatum]
  exact id

end Command

end TemplateTree
