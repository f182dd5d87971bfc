import Flipbook.Value.Printer

/-!
# What can be wrong with geometry

The faults of point lists, buffers and meshes, with their messages.
-/

namespace Flipbook

/-- What a buffer holds. -/
inductive BufferKind
  | edges
  | polygons
  deriving DecidableEq, Repr

namespace BufferKind

/-- The name of a kind. -/
def name : BufferKind → String
  | edges => "edges"
  | polygons => "polygons"

/-- The number of points of one element. -/
def stride : BufferKind → Nat
  | edges => 2
  | polygons => 3

end BufferKind

/-- A shape of an array, as it looks in messages. -/
def showShape (shape : List Nat) : String :=
  showTuple (shape.map Nat.repr)

/-- Why geometry is refused. -/
inductive GeometryFault
  /-- The kind of a buffer has no such name. -/
  | unknownKind (name : Value)
  /-- A flat list of coordinates is not made of triples. -/
  | flatLength
  /-- An array of this shape is no list of points. -/
  | pointShape (shape : List Nat)
  /-- The points do not make up whole elements. -/
  | partialElement (kind : BufferKind) (count : Nat)
  /-- An edge is given to a buffer of polygons. -/
  | edgeAmongPolygons
  /-- A polygon is given to a buffer of edges. -/
  | polygonAmongEdges
  /-- An array of this shape is no transformation. -/
  | transformShape (shape : List Nat)
  /-- A shape of one kind goes into a buffer of the other. -/
  | otherBuffer (wanted actual : BufferKind)
  /-- A curved surface is divided into too few steps. -/
  | tooFewSteps (steps : Int)
  /-- An array of this shape is no grid of points. -/
  | gridShape (shape : List Nat)

namespace GeometryFault

/-- The message of a fault. -/
def message : GeometryFault → String
  | unknownKind v => "kind は 'edges' か 'polygons': " ++ v.display
  | flatLength => "1次元入力の長さは3の倍数である必要があります（(x, y, z) の並び）"
  | pointShape shape => "座標配列の形状が不正です: " ++ showShape shape
  | partialElement kind count =>
    kind.name ++ " の頂点数は " ++ kind.stride.repr ++ " の倍数が必要です: " ++ count.repr
  | edgeAmongPolygons => "add_edge は kind='edges' のバッファのみ"
  | polygonAmongEdges => "add_polygon は kind='polygons' のバッファのみ"
  | transformShape shape => "変換行列は (4, 4) である必要があります: " ++ showShape shape
  | otherBuffer wanted actual =>
    wanted.name ++ " を " ++ actual.name ++ " バッファへは追記できません"
  | tooFewSteps steps => "step は 3 以上: " ++ toString steps
  | gridShape shape => "grid は (rows, cols, 3) である必要があります: " ++ showShape shape

/-- The message holds no number that is too long to be written. -/
def isWritable : GeometryFault → Bool
  | unknownKind v => v.isWritable
  | tooFewSteps steps => Text.isWritable steps
  | _ => true

end GeometryFault

end Flipbook
