import ChangeLens.Analyzer
import ChangeLens.Pairing

/-!
# `ChangeLens.Analyzer.Markup`: elements, attributes, components and rendering logic
-/

set_option autoImplicit false

namespace ChangeLens.Analyzer

open ChangeLens.Pairing

/-! ### Elements -/

/-- The attributes that matter for rendering; event handlers are compared on their own. -/
def renderedProps (site : ElementSite) : List Attribute :=
  site.props.filter fun prop => !isEventName prop.name

/-- The attributes as reports show them. -/
def propsText (site : ElementSite) : String :=
  let texts := (renderedProps site).map fun prop =>
    if prop.value.isEmpty then prop.name else prop.name ++ "=" ++ prop.value
  let text := Text.join " " texts
  if text.isEmpty then "(none)" else text

/-- What an element looks like apart from its tag. -/
def shapeOf (site : ElementSite) : List String × Bool :=
  (Text.sorted (site.props.map (·.name)), site.hasChildren)

/-- The node label of an element. -/
def elementLabel (site : ElementSite) : String :=
  if site.hasChildren then "JsxElement" else "JsxSelfClosingElement"

/-- A record about an element. -/
def elementRecord (target : Target) (kind : ChangeKind) (severity : Severity) (site : ElementSite)
    (detail : String) (context : Option String) : Record :=
  target.report kind severity site.span (elementLabel site) detail context

/-- The differences of two elements with the same tag. -/
def elementChanges (target : Target) (before after : ElementSite) : List Record :=
  (if renderedProps before = renderedProps after then []
   else
    [elementRecord target .jsxPropsChanged .low after s!"Props changed on <{after.tag}>"
      (some (arrow (propsText before) (propsText after)))]) ++
  (if after.isComponent && before.hasChildren != after.hasChildren then
    [elementRecord target .componentStructureChanged .low after
      s!"Component structure changed: <{after.tag}>"
      (some (if after.hasChildren then "children added" else "children removed"))]
   else [])

/-- The differences between the elements of two versions. Equal elements are taken out first, then
elements pair by tag, and of the rest components pair by what they look like. -/
def compareElements : Comparison := fun target base head =>
  let exact := pairBy (fun site => (site.tag, renderedProps site, site.hasChildren))
    base.elements head.elements
  let byTag := pairBy ElementSite.tag exact.base exact.head
  -- Only components are exchanged for each other; other elements come and go.
  let swapped := pairFirst
    (fun b h => b.isComponent && h.isComponent && shapeOf b == shapeOf h) byTag.base byTag.head
  (exact.pairs ++ byTag.pairs).flatMap (fun (b, h) => elementChanges target b h) ++
    swapped.pairs.map (fun (b, h) =>
      elementRecord target .componentReferenceChanged .medium h
        s!"Component reference changed: {arrow b.tag h.tag}" none) ++
    swapped.base.map (fun site =>
      elementRecord target .jsxElementRemoved .low site s!"JSX element removed: <{site.tag}>" none) ++
    swapped.head.map (fun site =>
      elementRecord target .jsxElementAdded .low site s!"JSX element added: <{site.tag}>" none)

/-! ### Rendering logic -/

/-- Conditional rendering beyond what the base version has. -/
def compareRenders : Comparison := fun target base head =>
  let (taken, _) := claims
    (fun after before => before.form == after.form && before.text == after.text)
    head.renders base.renders
  (unclaimed taken).map fun site =>
    target.report .jsxLogicAdded .medium site.span "JsxExpression"
      s!"Conditional rendering added ({site.form.name})" (some site.text)

/-- Whether a handler is worth a report: one written in place has to be complex enough. -/
def isSignificant (target : Target) (site : HandlerSite) : Bool :=
  !site.isInline || target.config.markup.handlerThreshold.value ≤ site.complexity

/-- A record about an event handler. -/
def handlerRecord (target : Target) (action : String) (site : HandlerSite) : Record :=
  target.report .eventHandlerChanged .low site.span "JsxAttribute"
    s!"Event handler {action}: {site.event} on <{site.element}>"

/-- The differences between the event handlers of two versions. -/
def compareHandlers : Comparison := fun target base head =>
  let paired := pairBy (fun site : HandlerSite => (site.element, site.event))
    (base.handlers.filter (isSignificant target)) (head.handlers.filter (isSignificant target))
  let changed := paired.pairs.filter fun (before, after) => before.text != after.text
  changed.map (fun (_, after) => handlerRecord target "changed" after) ++
    paired.head.map (handlerRecord target "added") ++
    paired.base.map (handlerRecord target "removed")

/-- The differences between the markup of two versions. -/
def compareMarkup : Comparison := fun target base head =>
  if !target.config.markup.enabled.isOn then []
  else if target.config.markup.ignoreLogicChanges.isOn then compareElements target base head
  else
    compareElements target base head ++ compareRenders target base head ++
      compareHandlers target base head

/-- Markup. -/
def markup : Analyzer :=
  .of "jsx" (some .jsxRendering) compareMarkup

end ChangeLens.Analyzer
