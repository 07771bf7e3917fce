import ObjectLens.Fixture.Layout

/-! Building a fixture. Some blocks have a fixed place, and what stands before one of them must not run into it. -/

namespace ObjectLens.Fixture

/-- The file of a fixture. The dynamic tables end before the code, the procedure linkage table before the stubs with
landing pads, those before `.plt.got`, and that before the slots it jumps through. -/
def build (fixture : Fixture) : Except BuildError Bytes := do
  if textAddress < fixture.dynamicBlock.stop then throw .tooManySymbols
  if pltSecAddress < fixture.pltBlock.stop then throw .tooManyImports
  if fixture.landingPads ∧ pltGotAddress < fixture.pltSecBlock.stop then throw .tooManyImports
  if !fixture.gotImports.isEmpty ∧ dataGotAddress < fixture.pltGotBlock.stop then throw .tooManyGotImports
  return Bytes.ofList (Block.assemble fixture.blocks)

end ObjectLens.Fixture
