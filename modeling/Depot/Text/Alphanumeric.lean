import Depot.Text.Packed

namespace Depot.Text

def alphanumericTable : String := "
0O;30A;aO;7A;1aO;6A;1aO;2fA;1O;7A;2O;1A;1O;3A;2O;1A;3O;1A;17O;1A;1fO;1A;1caO;4A;cO;eA;5O;7A;
1O;1A;1O;56A;1O;1dA;12O;1A;2O;2A;4O;1A;1O;6A;1O;1A;3O;1A;1O;1A;14O;1A;53O;1A;8bO;8A;a6O;1A;
26O;2A;1O;6A;29O;27A;eO;1A;1O;1A;2O;1A;2O;1A;1O;8A;1bO;4A;4O;1dA;bO;5A;38O;1A;11O;4A;66O;1A;
8O;4A;8O;4A;10O;2A;1O;10A;30O;dA;65O;eA;2bO;9A;2O;4A;1O;5A;18O;2A;13O;13A;19O;7A;bO;5A;18O;
1A;7O;7A;1O;8A;2aO;aA;cO;3A;7O;6A;4cO;1A;10O;1A;3O;4A;fO;2A;aO;1A;13O;1A;8O;2A;2O;2A;16O;1A;
7O;1A;1O;3A;4O;3A;8O;2A;2O;2A;2O;1A;1O;8A;1O;4A;2O;1A;5O;2A;cO;2A;6O;2A;1O;4A;3O;1A;6O;4A;
2O;2A;16O;1A;7O;1A;2O;1A;2O;1A;2O;4A;5O;4A;2O;2A;2O;4A;1O;7A;4O;1A;1O;7A;10O;bA;3O;1A;9O;1A;
3O;1A;16O;1A;7O;1A;2O;1A;5O;3A;9O;1A;3O;1A;2O;3A;1O;fA;4O;2A;aO;9A;4O;4A;3O;1A;8O;2A;2O;2A;
16O;1A;7O;1A;2O;1A;5O;3A;8O;2A;2O;2A;2O;9A;2O;4A;2O;1A;5O;2A;aO;1A;7O;aA;2O;1A;6O;3A;3O;1A;
4O;3A;2O;1A;1O;1A;2O;3A;2O;3A;3O;3A;cO;4A;5O;3A;3O;1A;3O;3A;1O;6A;1O;eA;dO;dA;dO;1A;3O;1A;
17O;1A;10O;3A;8O;1A;3O;1A;3O;8A;2O;1A;3O;1A;2O;2A;4O;2A;aO;8A;7O;1A;4O;1A;8O;1A;3O;1A;17O;
1A;aO;1A;5O;3A;8O;1A;3O;1A;3O;8A;2O;5A;3O;1A;4O;2A;aO;1A;3O;cA;dO;1A;3O;1A;29O;2A;8O;1A;3O;
1A;3O;1A;1O;5A;10O;2A;13O;1A;6O;1A;3O;1A;12O;3A;18O;1A;9O;1A;1O;2A;7O;8A;6O;1A;1O;1A;8O;6A;
aO;2A;2O;dA;3aO;5A;7O;6A;1O;2A;aO;27A;2O;1A;1O;1A;5O;1A;18O;1A;1O;1A;13O;1A;3O;2A;5O;1A;1O;
6A;1O;2A;aO;2A;4O;20A;1O;1fA;14O;cA;8O;1A;24O;4A;13O;4A;10O;1A;24O;43A;37O;1A;1O;2A;fO;6A;
4eO;2A;26O;1A;1O;5A;1O;2A;2bO;1A;14dO;1A;4O;2A;7O;1A;1O;1A;4O;2A;29O;1A;4O;2A;21O;1A;4O;2A;
7O;1A;1O;1A;4O;2A;fO;1A;39O;1A;4O;2A;43O;eA;14O;3A;10O;10A;56O;2A;6O;3A;26cO;2A;11O;1A;1aO;
5A;4bO;3A;bO;7A;14O;bA;15O;cA;14O;cA;dO;1A;3O;1A;2O;cA;34O;2A;13O;eA;1O;4A;1O;3A;aO;6A;aO;
16A;aO;6A;59O;7A;2bO;5A;46O;aA;1fO;1A;cO;4A;9O;dA;28O;2A;5O;bA;2cO;4A;1aO;6A;bO;25A;1cO;4A;
3fO;2A;14O;bA;aO;6A;aO;dA;1O;17A;2O;bA;3O;31A;34O;1A;fO;1A;8O;3A;aO;26A;2aO;2A;3aO;1A;bO;eA;
37O;9A;aO;3A;31O;2A;bO;5A;2bO;2A;3O;29A;4O;1A;6O;1A;2O;3A;1O;5A;c0O;13A;22O;bA;116O;2A;6O;
2A;26O;2A;6O;2A;8O;1A;1O;1A;1O;1A;1O;1A;1fO;2A;35O;1A;7O;1A;1O;3A;3O;1A;7O;3A;4O;2A;6O;4A;
dO;5A;3O;1A;7O;73A;2O;2A;6O;5A;bO;6A;dO;65A;1O;4A;1O;2A;aO;1A;1O;3A;5O;6A;1O;1A;1O;1A;1O;1A;
4O;1A;bO;2A;4O;5A;5O;4A;1O;1A;3aO;2d6A;3cO;1aA;4aO;276A;1eO;46cA;e5O;6A;4O;3A;2O;9A;1O;2A;
26O;1A;1O;5A;1O;2A;38O;7A;1O;10A;17O;9A;7O;1A;7O;1A;7O;1A;7O;1A;7O;1A;7O;1A;7O;1A;7O;1A;20O;
2fA;1O;1d5A;3O;19A;9O;7A;5O;2A;5O;4A;56O;6A;3O;1A;5aO;1A;4O;5A;2bO;1A;5eO;3A;4O;aA;20O;30A;
10O;20A;aO;1eA;8O;1A;fO;20A;aO;27A;fO;140A;19c0O;40A;568dO;43A;2eO;2A;10dO;3A;1cO;14A;2fO;
5A;8O;3A;71O;27A;9O;2A;67O;2A;52O;14A;15O;1A;21O;8A;6O;aA;34O;cA;44O;1A;1O;aA;aO;18A;6O;3A;
1O;1A;2eO;5A;23O;dA;1dO;3A;33O;1A;cO;fA;bO;6A;1fO;1A;37O;9A;eO;2A;aO;6A;17O;3A;45O;1A;1O;1A;
1O;18A;3O;2A;10O;2A;4O;bA;6O;2A;6O;2A;6O;9A;7O;1A;7O;1A;2bO;1A;eO;6A;7bO;5A;aO;6A;2ba4O;cA;
17O;4A;31O;2104A;16eO;2A;6aO;26A;7O;cA;5O;5A;cO;1A;dO;1A;5O;1A;1O;1A;2O;1A;2O;1A;6cO;21A;
16bO;12A;40O;2A;36O;28A;cO;74A;5O;1A;87O;13A;aO;7A;1aO;6A;1aO;bA;59O;3A;6O;2A;6O;2A;6O;2A;
3O;23A;cO;1A;1aO;1A;13O;1A;2O;1A;fO;2A;eO;22A;7bO;cA;2dO;cA;39O;11A;2O;f4A;1dO;3A;31O;10A;
1bO;4A;24O;9A;1eO;5A;2bO;5A;1eO;2A;24O;4A;8O;1A;5O;2aA;9eO;2A;aO;6A;24O;4A;24O;4A;28O;8A;
34O;cA;bO;1A;fO;1A;7O;1A;2O;1A;bO;1A;fO;1A;7O;1A;2O;3A;34O;cA;137O;9A;16O;aA;8O;18A;6O;1A;
2aO;1A;9O;45A;6O;2A;1O;1A;2cO;1A;2O;3A;1O;2A;17O;2A;1fO;2A;26O;8A;9O;30A;13O;1A;2O;5A;21O;
4A;1aO;6A;1aO;26A;38O;4A;14O;2A;32O;1A;2O;5A;8O;1A;3O;1A;1dO;aA;9O;17A;1fO;1A;20O;20A;8O;1A;
1cO;6A;5O;10A;36O;aA;16O;2A;1bO;5A;1aO;17A;7O;50A;49O;37A;33O;dA;33O;7A;2eO;8A;aO;6A;26O;3A;
1O;5A;17O;daA;1fO;1A;2aO;1A;2O;3A;2O;10A;6O;32A;3O;3A;28O;8A;16O;bA;4O;1bA;12O;2eA;1cO;14A;
17O;9A;46O;cA;1eO;1A;5O;aA;39O;9A;1O;dA;19O;7A;aO;6A;33O;3A;aO;4A;4O;8A;23O;3A;1O;9A;40O;1A;
4O;9A;dO;1A;1O;4A;14O;bA;12O;1A;22O;2A;1O;6A;4O;3eA;7O;1A;1O;1A;4O;1A;fO;1A;aO;7A;39O;7A;aO;
6A;4O;1A;8O;2A;2O;2A;16O;1A;7O;1A;2O;1A;5O;3A;8O;2A;2O;2A;2O;3A;1O;6A;1O;5A;7O;1cA;aO;1A;1O;
2A;1O;1A;26O;1A;aO;1A;1O;2A;1O;1A;4O;1A;2O;3A;1O;1A;1O;2cA;42O;1A;3O;1A;4O;5A;aO;5A;3O;1eA;
42O;2A;2O;1A;1O;8A;aO;a6A;36O;2A;7O;19A;6O;22A;3fO;1A;1O;3A;1O;bA;aO;26A;36O;2A;1O;7A;aO;6A;
14O;1cA;1bO;2A;eO;5A;cO;4A;7O;b9A;39O;67A;53O;cA;8O;2A;1O;2A;8O;1A;2O;1A;1eO;1A;2O;2A;2O;2A;
4O;dA;aO;46A;8O;2A;2eO;2A;6O;1A;1O;1A;2O;1bA;33O;2A;aO;11A;48O;5A;1O;12A;49O;67A;8O;58A;21O;
fA;aO;6A;9O;1A;2dO;1A;7O;1A;1O;fA;1dO;5A;1eO;2A;16O;1A;eO;49A;7O;1A;2O;1A;2cO;3A;1O;1A;2O;
1A;3O;1A;1O;2A;2O;8A;aO;6A;6O;1A;2O;1A;25O;1A;2O;1A;4O;1A;1O;7A;aO;6A;2cO;4A;aO;f6A;17O;9A;
11O;1A;29O;3A;3O;fA;aO;56A;1O;fA;15O;2bA;39aO;66A;6fO;11A;c4O;a4cA;61O;fA;430O;11A;6O;19A;
f9bO;5A;247O;1ab9A;2fO;1A;aO;6c6A;239O;7A;1fO;1A;aO;6A;4fO;1A;aO;6A;1eO;12A;30O;10A;4O;cA;
aO;1A;7O;1A;15O;5A;13O;1b0A;2dO;3A;aO;c6A;57O;9A;19O;2A;19O;2cA;4bO;4A;39O;7A;11O;40A;2O;1A;
1O;cA;7O;9A;1cd6O;29A;20O;61A;73O;21fdA;4O;1A;7O;1A;2O;1A;123O;fA;1O;1dA;3O;2A;1O;eA;4O;8A;
18cO;904A;6bO;5A;dO;3A;9O;7A;aO;4A;1O;1051A;aO;5c6A;14O;cA;14O;6cA;19O;87A;55O;1A;47O;1A;2O;
2A;1O;2A;2O;2A;4O;1A;cO;1A;1O;1A;7O;1A;41O;1A;4O;2A;8O;1A;7O;1A;1cO;1A;4O;1A;5O;1A;1O;3A;7O;
1A;154O;2A;19O;1A;19O;1A;1fO;1A;19O;1A;1fO;1A;19O;1A;1fO;1A;19O;1A;1fO;1A;19O;1A;8O;2A;32O;
700A;1fO;6A;6O;d5A;7O;1A;11O;2A;7O;1A;2O;1A;5O;5A;3eO;21A;1O;70A;2dO;aA;7O;2A;aO;4A;1O;141A;
1eO;12A;2cO;4A;aO;1d6A;1cO;4A;aO;d6A;1eO;2A;bO;c5A;1fO;1A;16O;8A;2O;e0A;7O;1A;4O;1A;2O;1A;
fO;1A;c5O;2A;9O;30A;44O;3A;1O;3A;1O;4A;aO;317A;3bO;1A;3O;1A;4O;4cA;2dO;1A;fO;c2A;4O;1A;1bO;
1A;2O;1A;1O;2A;1O;1A;aO;1A;4O;1A;1O;1A;1O;6A;1O;4A;1O;1A;1O;1A;1O;1A;3O;1A;2O;1A;1O;2A;1O;
1A;1O;1A;1O;1A;1O;1A;1O;1A;2O;1A;1O;2A;4O;1A;7O;1A;4O;1A;4O;1A;1O;1A;aO;1A;11O;5A;3O;1A;5O;
1A;11O;244A;dO;23A;1aO;6A;1aO;6A;1aO;a66A;aO;406A;a6e0O;20A;111eO;2A;168eO;2A;1d31O;fA;26eO;
9a2A;21eO;5e2A;134bO;5A;212aO;"

def alphanumericRows : Array Row := Row.unpack alphanumericTable

def isAlphanumeric (c : Char) : Bool :=
  match Row.find? alphanumericRows c.toNat with
  | some r => r.tag == 'A'
  | none => false

end Depot.Text
