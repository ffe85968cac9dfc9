import Depot.Text.Packed

namespace Depot.Text

def widthTable : String := "
0Z;20N;5fZ;21N;dZ;1N;252Z;70N;113Z;7N;107Z;2dN;1Z;1N;1Z;2N;1Z;2N;1Z;2N;3cZ;1N;aZ;bN;1Z;1N;
2eZ;15N;10Z;1N;65Z;7N;2Z;6N;2Z;2N;1Z;4N;21Z;1N;1Z;1N;1eZ;1bN;5bZ;bN;3aZ;9N;9Z;1N;18Z;4N;1Z;
9N;1Z;3N;1Z;5N;2bZ;3N;34Z;2N;5Z;9N;2aZ;39N;37Z;1N;1Z;1N;4Z;8N;4Z;1N;3Z;7N;aZ;2N;1dZ;1N;3aZ;
1N;1Z;1N;2Z;4N;8Z;1N;9Z;1N;aZ;2N;1aZ;1N;2Z;2N;39Z;1N;4Z;2N;4Z;2N;2Z;3N;3Z;1N;1eZ;2N;3Z;1N;
bZ;2N;39Z;1N;4Z;5N;1Z;2N;4Z;1N;14Z;2N;16Z;6N;1Z;1N;3aZ;1N;1Z;2N;1Z;4N;8Z;1N;7Z;3N;aZ;2N;1eZ;
1N;3bZ;1N;1Z;1N;cZ;1N;9Z;1N;28Z;1N;3Z;1N;37Z;1N;1Z;3N;5Z;3N;1Z;4N;7Z;2N;bZ;2N;1dZ;1N;3aZ;1N;
2Z;2N;1Z;1N;3Z;3N;1Z;4N;7Z;2N;bZ;2N;1cZ;2N;39Z;2N;1Z;1N;2Z;4N;8Z;2N;8Z;1N;aZ;2N;1dZ;1N;48Z;
1N;4Z;1N;2Z;3N;1Z;1N;8Z;1N;51Z;1N;2Z;7N;cZ;8N;62Z;1N;2Z;9N;bZ;7N;49Z;2N;1bZ;1N;1Z;1N;1Z;1N;
37Z;eN;1Z;5N;1Z;2N;5Z;bN;1Z;24N;9Z;1N;66Z;4N;1Z;6N;1Z;2N;2Z;2N;19Z;2N;4Z;3N;10Z;4N;dZ;1N;2Z;
2N;6Z;1N;fZ;1N;62W;60Z;a0N;15dZ;3N;3b2Z;4N;1cZ;3N;1dZ;2N;1eZ;2N;30W;1N;fZ;2N;1Z;7N;8Z;1N;2Z;
bN;4T;1N;4Z;1N;2dZ;5N;75Z;2N;22Z;1N;76Z;3N;4Z;2N;9Z;1N;6Z;3N;dbZ;2N;2Z;1N;3aZ;1N;1Z;7N;1Z;
1N;1Z;1N;2Z;8N;6Z;aN;2Z;1N;30Z;2eN;2Z;cN;14Z;4N;30Z;aN;4Z;3N;26Z;9N;cZ;2N;20Z;4N;2Z;6N;38Z;
1N;1Z;2N;3Z;1N;1Z;5N;38Z;8N;2Z;2N;98Z;3N;1Z;dN;1Z;7N;4Z;1N;6Z;1N;3Z;2N;c6Z;40N;20bZ;5N;1aZ;
5N;31Z;10N;60Z;21N;229W;2N;dW;2N;beW;4N;3W;1N;2W;1N;209W;2N;15W;2N;1aW;8N;10W;cN;2bW;1N;aW;
6N;3W;1N;dW;1N;8W;2N;11W;2N;5W;2N;8W;1N;5W;1N;15W;1N;7W;2N;1W;1N;4W;1N;2W;1N;7W;1N;4W;2N;
1cW;1N;23W;1N;1W;1N;4W;3N;1W;1N;3dW;3N;18W;1N;eW;1N;35bW;2N;33W;1N;4W;1N;199Z;3N;eeZ;20N;
80W;1aN;1W;59N;cW;d6N;1aW;3aZ;6W;fN;2W;56N;2Z;2W;65N;5W;2bN;1W;33Z;1W;2aN;1W;56N;9W;30N;1W;
28N;8W;723dN;3W;37N;1a8Z;4N;1Z;aN;20Z;2N;50Z;2N;110Z;1N;3Z;1N;4Z;1N;19Z;2N;5Z;1N;97Z;2N;1aZ;
12N;8Z;1N;4Z;1N;26Z;8N;19Z;bN;1Z;1N;cW;1dN;3Z;3N;30Z;1N;2Z;4N;2Z;2N;2Z;1N;24Z;1N;43Z;6N;2Z;
2N;2Z;2N;cZ;1N;8Z;1N;2fZ;1N;33Z;1N;1Z;3N;2Z;2N;5Z;2N;1Z;1N;2aZ;2N;8Z;1N;eeZ;1N;2Z;1N;4Z;1N;
12W;2ba4N;cZ;17N;4Z;31N;2104W;200N;1eZ;1N;2e1Z;10W;aN;6Z;10W;23N;1W;13N;1W;4N;93Z;1N;1W;60N;
3fZ;1N;3fW;7N;9Z;9N;204Z;1N;e2Z;1N;95Z;5N;686Z;3N;1Z;2N;5Z;4N;28Z;3N;4Z;1N;a5Z;2N;23dZ;4N;
41Z;5N;13dZ;2N;4dZ;6N;46Z;bN;31Z;4N;7bZ;1N;36Z;fN;29Z;1N;2Z;2N;aZ;3N;31Z;4N;2Z;2N;7Z;1N;3dZ;
3N;24Z;5N;1Z;8N;3eZ;1N;cZ;2N;34Z;9N;1Z;1N;1Z;2N;5Z;4N;2Z;1N;5fZ;3N;2Z;4N;6Z;1N;2Z;1N;9dZ;1N;
3Z;8N;15Z;2N;39Z;2N;1Z;1N;1Z;1N;cZ;1N;9Z;1N;eZ;7N;3Z;5N;43Z;1N;2Z;6N;1Z;1N;2Z;1N;1Z;3N;4Z;
3N;1Z;1N;eZ;2N;55Z;8N;2Z;3N;1Z;1N;17Z;1N;51Z;1N;2Z;6N;1Z;1N;2Z;1N;1Z;2N;1Z;2N;ebZ;1N;2Z;4N;
6Z;2N;1Z;2N;1bZ;2N;55Z;8N;2Z;1N;1Z;2N;6aZ;1N;1Z;1N;2Z;8N;65Z;1N;1Z;1N;2Z;4N;1Z;5N;103Z;9N;
1Z;2N;f5Z;1N;aZ;5N;1Z;1N;1Z;1N;90Z;4N;2Z;2N;4Z;1N;20Z;aN;28Z;6N;1Z;5N;8Z;1N;9Z;6N;2Z;3N;28Z;
13N;1Z;2N;c6Z;1N;1Z;3N;1Z;1N;c9Z;7N;1Z;6N;1Z;1N;52Z;16N;2Z;7N;1Z;2N;1Z;2N;7aZ;6N;3Z;1N;1Z;
2N;1Z;9N;48Z;2N;3Z;1N;1Z;1N;15bZ;2N;bZ;3N;33Z;5N;5Z;3N;17Z;1N;14e5Z;1N;6Z;fN;2cc8Z;cN;3Z;3N;
9c0Z;5N;3bZ;7N;418Z;1N;3fZ;4N;4dW;4Z;1N;bZ;2W;5N;9W;1cd6N;29W;20N;61W;73N;21fdW;4N;1W;7N;1W;
2N;1W;123N;fW;1N;1dW;3N;2W;1N;eW;4N;8W;18cN;9a1Z;2N;1Z;4N;125cZ;2eN;2Z;17N;21eZ;5N;3Z;16N;
2Z;7N;1eZ;4N;94Z;3N;bbW;57N;9W;17N;689Z;37N;4Z;32N;8Z;1N;eZ;1N;16Z;5N;1Z;fN;550Z;7N;1Z;11N;
2Z;7N;1Z;2N;1Z;5N;64Z;1N;a0Z;7N;177Z;1N;3dZ;4N;1fcZ;4N;feZ;2N;f3Z;1N;2Z;1N;7Z;2N;5Z;1N;1daZ;
7N;6dZ;7N;6b9W;1N;caW;1N;beW;1N;2W;aN;65W;3N;dW;2cN;4W;9N;7W;2N;eW;6N;9aW;21N;cW;9N;1W;46N;
1W;16N;cW;2bN;4W;5N;cW;11N;3W;1N;3W;47N;1W;1N;1W;bbN;2W;3fN;dW;4N;1W;18N;12W;1N;1aW;2N;dW;
1N;56W;55N;30W;46N;6W;1N;3W;3N;2W;4N;3W;4N;bW;2N;7W;9N;e3W;cN;4W;1N;11bW;2fN;1W;aN;1W;b9N;
70W;dN;3W;bN;3W;39N;1W;1N;4W;10N;2W;cN;4W;aN;507W;fffeN;2W;fffeN;a0002Z;1000N;"

def widthRows : Array Row := Row.unpack widthTable

def columns (c : Char) : Nat :=
  match Row.find? widthRows c.toNat with
  | some r =>
    if r.tag == 'T' then 3 else if r.tag == 'W' then 2 else if r.tag == 'N' then 1 else 0
  | none => 1

end Depot.Text
